import CueScript.Builtin.Files
import CueScript.Builtin.Handlers
import CueScript.Builtin.Number

set_option autoImplicit false

namespace CueScript

inductive Reply where
  | value (v : Value)
  | wait (units : Int64)

namespace Builtin

def zeroAfter (x : Run Unit) : Run Value := do
  x
  pure (.int 0)

/-- The value of every builtin that does not wait. An argument that is missing is nil. -/
def value (args : List Value) : Builtin → Run Value
  | .strLen => Run.read fun m => Action.length (Action.textOf m (arg 0))
  | .subStr => Run.read fun m => Action.substring (Action.textOf m (arg 0)) (arg 1) (arg 2)
  | .strFind => Run.read fun m => Action.position ((arg 0).display m.store) ((arg 1).display m.store)
  | .strUp => Run.read fun m => .text (Text.upperAscii ((arg 0).display m.store))
  | .strLow => Run.read fun m => .text (Text.lowerAscii ((arg 0).display m.store))
  | .strPrint => Action.print args
  | .intToStr => pure (.text (toString (arg 0).toInt))
  | .strToInt => pure (.int (arg 0).toInt)
  | .charCode => Action.charCode (arg 0)
  | .strCode => do Action.strCode (← Run.read fun m => Action.textOf m (arg 0))
  | .random => Action.random (arg 0).toInt
  | .abs => pure (Action.absolute (arg 0))
  | .max => Action.largest args
  | .min => Action.smallest args
  | .makeLong => pure (.int (Action.makeLong (arg 0).toInt (arg 1).toInt))
  | .loWord => pure (.int (Action.lowWord (arg 0).toInt))
  | .hiWord => pure (.int (Action.highWord (arg 0).toInt))
  | .arraySize => Action.arraySize (arg 0)
  | .delArrayAll => Action.clearArray (arg 0)
  | .delArrayAt => Action.removeCell (arg 0) (arg 1).toInt
  | .insArrayAt => Action.insertCell (arg 0) (arg 1).toInt (arg 2)
  | .openFile => Action.openFile (arg 0) (arg 1)
  | .closeFile => Action.withHandle "CloseF" args fun h => zeroAfter (Action.access (·.close h))
  | .readNumber => Action.withHandle "ReadF" args fun h => do
    pure (.int (Int64.ofNat (← Action.access (·.readNumber h (arg 1).toInt))))
  | .writeNumber => Action.withHandle "WriteF" args fun h =>
    zeroAfter (Action.access (·.writeNumber h (arg 2).toInt (arg 1).toInt))
  | .seek => Action.withHandle "SeekF" args fun h => do
    pure (.int (Int64.ofNat (← Action.access (·.seek h (arg 1).toInt (arg 2).toInt))))
  | .readLine => Action.withHandle "StrReadF" args Action.readLine
  | .writeText => Action.withHandle "StrWriteF" args fun h => Action.writeText h (arg 1)
  | .isExist => Action.isExist (arg 0)
  | .playMidi => Action.play "PlayMIDI" Audio.playMidi (arg 0)
  | .playWave => Action.play "PlayWAVE" Audio.playWav (arg 0)
  | .stopMidi => zeroAfter (Run.modify fun m => { m with audio := m.audio.stopMidi })
  | .stopWave => zeroAfter (Run.modify fun m => { m with audio := m.audio.stopWav })
  | .muteMidi => Action.mute (arg 0)
  | .retireMe => zeroAfter Action.retireMe
  | .retireKind => zeroAfter Action.retireKind
  | .retireAll => zeroAfter Action.retireAll
  | .freeze => zeroAfter (Action.steer "FreezeMes" Handler.freeze args)
  | .activate => zeroAfter (Action.steer "ActivateMes" Handler.activate args)
  | .post => zeroAfter (Action.post args)
  | .exitTitle => zeroAfter Action.exitTitle
  | .scenery | .wait => pure (.int 0)
  | .host (.value v) => pure v
  | .host (.fail kind message) => Run.fail { kind, message }
  | .host .argumentCount => pure (.int (Int64.ofNat args.length))
  | .host (.wait _) => pure (.int 0)
where
  arg (i : Nat) : Value := args[i]?.getD .nil

def traced (builtin : Builtin) (args : List Value) : Run Value := do
  Run.modify (·.note (.builtin builtin args))
  builtin.value args

def call (builtin : Builtin) (args : List Value) : Run Reply :=
  match builtin with
  | .wait => pure (.wait (Action.waitUnits (args.head?.getD .nil)))
  | .host (.wait units) => pure (.wait units)
  | builtin => .value <$> builtin.traced args

end Builtin

end CueScript
