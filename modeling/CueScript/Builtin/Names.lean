import CueScript.Machine.State

set_option autoImplicit false

namespace CueScript

namespace Builtin

def sceneryNames : List String :=
  ["OpenWin", "CloseWin", "CloseWinAll", "MoveWin", "CapTitle", "WinColor", "LoadPic", "CreatePic", "DelPic", "MovePic",
   "ReversePic", "PicWidth", "PicHeight", "PutCast", "DelCast", "MoveCast", "TextWrite", "TextColor", "BgColor",
   "BackMode", "SetFont", "DrawLine", "DrawRect", "GetColor"]

def standardNames : List (String × Builtin) :=
  [("StrLen", .strLen), ("SubStr", .subStr), ("StrFind", .strFind), ("StrUp", .strUp), ("StrLow", .strLow),
   ("StrPrint", .strPrint), ("IntToStr", .intToStr), ("StrToInt", .strToInt), ("CharCode", .charCode),
   ("StrCode", .strCode), ("Random", .random), ("Abs", .abs), ("Max", .max), ("Min", .min), ("MakeLong", .makeLong),
   ("LoWord", .loWord), ("HiWord", .hiWord), ("ArraySize", .arraySize), ("DelArrayAll", .delArrayAll),
   ("DelArrayAt", .delArrayAt), ("InsArrayAt", .insArrayAt),
   ("OpenF", .openFile), ("CloseF", .closeFile), ("ReadF", .readNumber), ("WriteF", .writeNumber), ("SeekF", .seek),
   ("StrReadF", .readLine), ("StrWriteF", .writeText), ("IsExist", .isExist),
   ("PlayMIDI", .playMidi), ("PlayWAVE", .playWave), ("StopMIDI", .stopMidi), ("StopWAVE", .stopWave),
   ("MuteMIDI", .muteMidi),
   ("del_me", .retireMe), ("end_step", .retireMe), ("del_us", .retireKind), ("del_all", .retireAll),
   ("FreezeMes", .freeze), ("ActivateMes", .activate), ("PostMes", .post), ("Wait", .wait), ("ExitTitle", .exitTitle)]

def standard : List (String × Builtin) :=
  (standardNames ++ sceneryNames.map (·, Builtin.scenery)).map fun (name, builtin) => (Text.lower name, builtin)

end Builtin

end CueScript
