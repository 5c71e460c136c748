import Mathlib.Data.List.Infix
import Odis.Python.Float
import Odis.Python.Isoformat

/-!
# Decoded JSON values

The values `json.loads` returns, and what the built-in operations that the programs apply to them do
on values of every type, the exceptions they raise included. An `obj` is a `dict`; a lookup finds
the first entry of a key, and the entries of a `dict` have distinct keys.
-/

namespace Odis

/-- The exceptions of the built-in operations. -/
inductive PyException where
  | typeError
  | keyError
  | valueError
  | overflowError
  | attributeError
  deriving DecidableEq, Repr

/-- A value that `json.loads` returns. -/
inductive Json (F : Type) where
  | null
  | bool (b : Bool)
  | int (n : ℤ)
  | float (x : F)
  | str (s : String)
  | arr (items : List (Json F))
  | obj (fields : List (String × Json F))

/-- The texts of values, and the integers that they are read as. No value but the empty string has
the empty text. -/
class JsonText (F : Type) where
  /-- `repr(v)`. The text of a number, a `list` or a `dict` is the same. -/
  repr : Json F → String
  repr_ne_empty : ∀ v, repr v ≠ ""
  /-- `int(v)`. -/
  toInt : Json F → Except PyException ℤ
  toInt_int : ∀ n, toInt (.int n) = .ok n

/-- The text of an integer. -/
def intText (n : ℤ) : String := (if n < 0 then "-" else "") ++ Nat.repr n.natAbs

/-- What ends in something is not empty. -/
theorem append_ne_empty {s s' : String} (h : s' ≠ "") : s ++ s' ≠ "" := by
  intro happ
  have hlist := congrArg String.toList happ
  rw [String.toList_append] at hlist
  exact h (String.ext (List.append_eq_nil_iff.mp hlist).2)

/-- Rationals are written as fractions. -/
instance : JsonText ℚ where
  repr
    | .int n => intText n
    | .float x => intText x.num ++ "/" ++ Nat.repr x.den
    | .arr _ => "[...]"
    | _ => "{...}"
  repr_ne_empty v := by
    cases v with
    | int n => exact append_ne_empty Nat.repr_ne_empty
    | float x => exact append_ne_empty Nat.repr_ne_empty
    | arr items => exact (by decide : ("[...]" : String) ≠ "")
    | _ => exact (by decide : ("{...}" : String) ≠ "")
  toInt
    | .int n => .ok n
    | _ => .error .typeError
  toInt_int _ := rfl

namespace Json

variable {F : Type}

/-- The value is a given string. -/
def isStr (s : String) : Json F → Bool
  | str s' => s' = s
  | _ => false

/-- `fields.get(name)`. -/
def lookup (fields : List (String × Json F)) (name : String) : Option (Json F) :=
  (fields.find? fun field => field.1 = name).map Prod.snd

/-- `fields[name]`. -/
def getItem (fields : List (String × Json F)) (name : String) : Except PyException (Json F) :=
  match lookup fields name with
  | some v => .ok v
  | none => .error .keyError

/-- `raw[name] if name in raw else None`. A string or a list that contains the name cannot be
indexed with it, and the other values contain nothing. -/
def field (raw : Json F) (name : String) : Except PyException (Json F) :=
  match raw with
  | obj fields => .ok ((lookup fields name).getD null)
  | arr items => if items.any (isStr name) then .error .typeError else .ok null
  | str s => if name.toList <:+: s.toList then .error .typeError else .ok null
  | _ => .error .typeError

/-- `bool(v)`. -/
def truthy [PyFloat F] : Json F → Bool
  | null => false
  | bool b => b
  | int n => n ≠ 0
  | float x => !(x == PyFloat.literal 0)
  | str s => s ≠ ""
  | arr items => !items.isEmpty
  | obj fields => !fields.isEmpty

/-- `str(v)`. -/
def text [JsonText F] : Json F → String
  | null => "None"
  | bool true => "True"
  | bool false => "False"
  | str s => s
  | v => JsonText.repr v

/-- `isinstance(v, int | float) and not isinstance(v, bool)`. -/
def isNumber : Json F → Bool
  | int _ => true
  | float _ => true
  | _ => false

/-- The least size of an `int` that has no nearest `float`. -/
def floatLimit : ℕ := 2 ^ 1024 - 2 ^ 970

/-- `float(n)`. -/
def intToFloat [PyFloat F] (n : ℤ) : Except PyException F :=
  if n.natAbs < floatLimit then .ok (PyFloat.ofInt n) else .error .overflowError

/-- `float(v)` of a number. -/
def toFloat [PyFloat F] : Json F → Except PyException F
  | int n => intToFloat n
  | float x => .ok x
  | _ => .error .typeError

/-- `raw.replace("Z", "+00:00")`. -/
def replaceZ (s : String) : String :=
  String.ofList (s.toList.flatMap fun c => if c = 'Z' then "+00:00".toList else [c])

/-- `_parse_timestamp` of the two message formats, unless it raises `MalformedTimestampError`. -/
def parseTimestamp? : Json F → Option Datetime
  | str s => (Datetime.fromIsoformat? (replaceZ s)).map Datetime.IsoDatetime.aware
  | _ => none

/-! ## Lookups and texts -/

section Lemmas

variable {v : Json F} {name : String}

/-- Only the empty string has an empty text. -/
theorem text_ne_empty [JsonText F] (h : v ≠ str "") : v.text ≠ "" := by
  cases v with
  | str s => exact fun hs => h (congrArg str hs)
  | bool b =>
      cases b
      · exact (by decide : ("False" : String) ≠ "")
      · exact (by decide : ("True" : String) ≠ "")
  | null => exact (by decide : ("None" : String) ≠ "")
  | int n => exact JsonText.repr_ne_empty _
  | float x => exact JsonText.repr_ne_empty _
  | arr items => exact JsonText.repr_ne_empty _
  | obj fields => exact JsonText.repr_ne_empty _

/-- Only the empty string has the empty text. -/
theorem text_eq_empty_iff [JsonText F] : v.text = "" ↔ v = str "" := by
  constructor
  · intro h
    by_contra hne
    exact text_ne_empty hne h
  · rintro rfl
    rfl

/-- A text without a `Z` stays as it is. -/
theorem replaceZ_eq {s : String} (h : 'Z' ∉ s.toList) : replaceZ s = s := by
  have hflat : ∀ cs : List Char, 'Z' ∉ cs →
      cs.flatMap (fun c => if c = 'Z' then "+00:00".toList else [c]) = cs := by
    intro cs
    induction cs with
    | nil => exact fun _ => rfl
    | cons c cs ih =>
        intro hcs
        have hc : c ≠ 'Z' := fun hc => hcs (hc ▸ List.mem_cons_self)
        rw [List.flatMap_cons, if_neg hc, ih fun hmem => hcs (List.mem_cons_of_mem c hmem)]
        rfl
  rw [replaceZ, hflat s.toList h, String.ofList_toList]

/-- The characters of a number are digits. -/
theorem isDigit_of_mem_zeroPadded {width n : ℕ} {c : Char}
    (hc : c ∈ (Datetime.zeroPadded width n).toList) : c.isDigit = true := by
  rw [Datetime.zeroPadded, String.toList_append, String.toList_ofList, List.mem_append] at hc
  rcases hc with hzero | hdigit
  · rw [List.eq_of_mem_replicate hzero]
    decide
  · rw [Nat.toString_eq_ofList_toDigits, String.toList_ofList] at hdigit
    exact Nat.isDigit_of_mem_toDigits (by decide) (by decide) hdigit

/-- No text that `isoformat` writes has a `Z`. -/
theorem not_mem_isoformat (t : Datetime) : 'Z' ∉ t.isoformat.toList := by
  have hnumber : ∀ width n, 'Z' ∉ (Datetime.zeroPadded width n).toList := by
    intro width n hmem
    exact absurd (isDigit_of_mem_zeroPadded hmem) (by decide)
  have htime : ∀ microseconds, 'Z' ∉ (Datetime.timeText microseconds).toList := by
    intro microseconds
    rw [Datetime.timeText]
    split_ifs <;> simp [String.toList_append, hnumber]
  have hoffset : 'Z' ∉ (Datetime.offsetText t.utcOffset).toList := by
    rw [Datetime.offsetText]
    split_ifs <;> simp [String.toList_append, hnumber, htime]
  simp [Datetime.isoformat, Datetime.isoformatWith, String.toList_append, hnumber, htime, hoffset]

/-- The text of a timestamp is parsed back. -/
theorem parseTimestamp?_isoformat {t : Datetime} (h : t.InRange) :
    parseTimestamp? (str t.isoformat : Json F) = some t := by
  rw [parseTimestamp?, replaceZ_eq (not_mem_isoformat t), Datetime.aware_fromIsoformat?_isoformat h]

end Lemmas

end Json

end Odis
