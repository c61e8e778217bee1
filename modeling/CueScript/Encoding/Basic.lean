import CueScript.Encoding.Gb18030
import CueScript.Encoding.ShiftJis
import CueScript.Text.Lower
import CueScript.Text.Quoted

set_option autoImplicit false

namespace CueScript

inductive Encoding where
  | utf8
  | shiftJis
  | gbk
deriving DecidableEq, Repr

namespace Encoding

def all : List Encoding :=
  [.utf8, .shiftJis, .gbk]

def name : Encoding → String
  | .utf8 => "utf8"
  | .shiftJis => "shiftjis"
  | .gbk => "gbk"

def standardName : Encoding → String
  | .utf8 => "UTF-8"
  | .shiftJis => "Shift_JIS"
  | .gbk => "gb18030"

def parse? (name : String) : Option Encoding :=
  let wanted := Text.lowerAscii name
  if wanted ∈ ["shiftjis", "shift_jis", "sjis"] then some .shiftJis
  else if wanted ∈ ["utf8", "utf-8"] then some .utf8
  else if wanted ∈ ["gbk", "gb2312", "gb18030"] then some .gbk
  else none

def unknown (name : String) : String :=
  s!"unknown text encoding: {Text.lowerAscii name}"

def encodeChar? (e : Encoding) (c : Char) : Option Bytes :=
  match e with
  | .utf8 => some (String.utf8EncodeChar c)
  | .shiftJis => ShiftJis.encodeChar? c
  | .gbk => Gb18030.encodeChar? c

def represents (e : Encoding) (s : String) : Bool :=
  s.toList.all fun c => (e.encodeChar? c).isSome

def reference (c : Char) : Bytes :=
  Bytes.ofText s!"&#{c.toNat};"

def encode (e : Encoding) (s : String) : Bytes :=
  match e with
  | .utf8 => Bytes.ofText s
  | e => s.toList.flatMap fun c => (e.encodeChar? c).getD (reference c)

def warning? (e : Encoding) (s : String) : Option String :=
  if e.represents s then none else some s!"encode: {Text.quoted s} is not fully representable in {e.name}"

/-- The text of some bytes. A byte order mark of a Unicode encoding at their start goes before the other two
encodings, and is no part of the text. -/
def decode (e : Encoding) (bytes : Bytes) : String :=
  match e with
  | .utf8 => Utf8.decode bytes
  | e =>
    match bytes with
    | 0xEF :: 0xBB :: 0xBF :: rest => Utf8.decode rest
    | 0xFF :: 0xFE :: rest => Utf16.decode Utf16.little rest
    | 0xFE :: 0xFF :: rest => Utf16.decode Utf16.big rest
    | bytes => if e = .shiftJis then ShiftJis.decode bytes else Gb18030.decode bytes

end Encoding

end CueScript
