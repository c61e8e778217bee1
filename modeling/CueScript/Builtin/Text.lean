import CueScript.Format.Render
import CueScript.Machine.Run
import CueScript.Text.Search

set_option autoImplicit false

namespace CueScript

namespace Action

def textOf (m : Machine) (v : Value) : List Char :=
  (v.display m.store).toList

def length (text : List Char) : Value :=
  .int (Int64.ofNat text.length)

def sliceCount (count : Value) : Option Nat :=
  if count.isNil || count.toInt < 0 then none else some count.toInt.toInt.toNat

def substring (text : List Char) (start count : Value) : Value :=
  .text (String.ofList (Text.slice start.toInt.toInt.toNat (sliceCount count) text))

def position (text part : String) : Value :=
  match Text.find? part text with
  | some i => .int (Int64.ofNat i)
  | none => .int (-1)

def codeBytes? (code : Int64) : Option Bytes :=
  if code < 0 ∨ 0xFFFF < code then none
  else if code < 0x100 then some [code.toUInt64.toUInt8]
  else some [(code >>> 8).toUInt64.toUInt8, code.toUInt64.toUInt8]

def codeOf (bytes : Bytes) : Int64 :=
  bytes.foldl (fun code b => code <<< 8 ||| Int64.ofNat b.toNat) 0

def charCode (code : Value) : Run Value := do
  match codeBytes? code.toInt with
  | some bytes => Run.read fun m => .text (m.settings.encoding.decode bytes)
  | none =>
    Run.report .error s!"CharCode: {code.toInt} is not a character code"
    pure (.text "")

def encode (text : String) : Run Bytes := do
  let encoding ← Run.read (·.settings.encoding)
  match encoding.warning? text with
  | some warning => Run.warn warning
  | none => pure ()
  pure (encoding.encode text)

def strCode (text : List Char) : Run Value := do
  match text with
  | [] => pure (.int 0)
  | c :: _ => (fun bytes => .int (codeOf bytes)) <$> encode (String.ofList [c])

def print (args : List Value) : Run Value := do
  match args with
  | [] =>
    Run.report .error "StrPrint: missing format string"
    pure (.text "")
  | text :: args =>
    let formatted ← Run.read fun m => format m.store (text.display m.store) args
    formatted.warnings.forM Run.warn
    pure (.text (String.ofList formatted.text))

end Action

end CueScript
