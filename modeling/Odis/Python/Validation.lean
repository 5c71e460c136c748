import Odis.Python.Json

/-!
# Validators of decoded messages

What the validators of the two message formats share: they look up required fields in a value that
need not be a dict, and they raise exceptions of their own. An operation on a value of another type
than they expect raises something else, which they do not catch.

* `requireFields_eq_raised_iff`, `requireFields_eq_ok_iff`: what the first loop of a validator comes
  to.
* `requireFiniteNumber_eq_raised_iff`: what the check of a number does not expect.
-/

namespace Odis

/-- How a validator ends without a result: it rejects the message, or an operation raises. -/
inductive ValidationFailure (R : Type) where
  | rejected (reason : R)
  | raised (exception : PyException)

namespace Json

variable {F R : Type}

/-- `raw[name]`, where the field is known to be there. -/
def item (raw : Json F) (name : String) : Json F :=
  match raw.field name with
  | .ok v => v
  | .error _ => null

/-- `if name not in raw or raw[name] is None: raise MissingFieldError(name)`, for each name. -/
def requireFields (missing : String → R) (raw : Json F) :
    List String → Except (ValidationFailure R) Unit
  | [] => .ok ()
  | name :: names =>
      match raw.field name with
      | .error exception => .error (.raised exception)
      | .ok null => .error (.rejected (missing name))
      | .ok _ => requireFields missing raw names

/-- `v not in names`, where it decides whether the message is rejected. -/
def requireIn (names : List String) (unsupported : R) (v : Json F) :
    Except (ValidationFailure R) String :=
  match v with
  | str s => if s ∈ names then .ok s else .error (.rejected unsupported)
  | arr _ => .error (.raised .typeError)
  | obj _ => .error (.raised .typeError)
  | _ => .error (.rejected unsupported)

/-- `hash(v)` does not raise. -/
def Hashable (v : Json F) : Prop := (∀ items, v ≠ arr items) ∧ ∀ fields, v ≠ obj fields

/-- `if not isinstance(v, str) or not v: raise`. -/
def requireText (invalid : R) (v : Json F) : Except (ValidationFailure R)
    { s : String // s ≠ "" } :=
  match v with
  | str s => if h : s ≠ "" then .ok ⟨s, h⟩ else .error (.rejected invalid)
  | _ => .error (.rejected invalid)

theorem ne_empty (text : { s : String // s ≠ "" }) : text.val ≠ "" := text.property

/-- `_parse_timestamp`. -/
def requireTimestamp (malformed : R) (v : Json F) : Except (ValidationFailure R) Datetime :=
  match parseTimestamp? v with
  | some t => .ok t
  | none => .error (.rejected malformed)

/-- `float(v)` of a number is finite. -/
def FiniteNumber [PyFloat F] (v : Json F) : Prop :=
  ∃ x, v.toFloat = .ok x ∧ PyFloat.isfinite x = true

/-- An `int` too large for `float(v)`. -/
def Oversized (v : Json F) : Prop := ∃ n, v = int n ∧ floatLimit ≤ n.natAbs

/-- The check of a number, and that `float(v)` of it is finite. -/
def requireFiniteNumber [PyFloat F] (notNumeric : R) (notFinite : F → R) (v : Json F) :
    Except (ValidationFailure R) { x : F // PyFloat.isfinite x = true } :=
  if !v.isNumber then .error (.rejected notNumeric)
  else
    match v.toFloat with
    | .error exception => .error (.raised exception)
    | .ok x =>
        if h : PyFloat.isfinite x = true then .ok ⟨x, h⟩ else .error (.rejected (notFinite x))

section Lemmas

variable {raw v : Json F} {missing : String → R} {name : String} {names : List String}
  {exception : PyException}

theorem field_obj (fields : List (String × Json F)) (name : String) :
    (obj fields).field name = .ok ((lookup fields name).getD null) := rfl

/-- The lookups in a dict do not raise. -/
theorem requireFields_obj_ne_raised {fields : List (String × Json F)} :
    requireFields missing (obj fields) names ≠ .error (.raised exception) := by
  induction names with
  | nil => exact fun h => nomatch h
  | cons name names ih =>
      rw [requireFields, field_obj]
      split
      next h => cases h
      · exact fun h => nomatch h
      · exact ih

/-- Only the first lookup can raise, and it does so where the value is no container or contains the
name itself. -/
theorem requireFields_eq_raised_iff :
    requireFields missing raw (name :: names) = .error (.raised exception) ↔
      raw.field name = .error exception := by
  cases hraw : raw with
  | obj fields =>
      refine iff_of_false requireFields_obj_ne_raised ?_
      rw [field_obj]
      exact fun h => nomatch h
  | arr items =>
      rw [requireFields]
      cases hany : items.any (isStr name) <;> simp [field, hany]
  | str s =>
      rw [requireFields]
      by_cases hinfix : name.toList <:+: s.toList <;> simp [field, hinfix]
  | _ => simp [requireFields, field]

/-- A value gets past the loop if it is a dict that has all the fields, none of them `None`. -/
theorem requireFields_eq_ok_iff :
    requireFields missing raw (name :: names) = .ok () ↔
      (∃ fields, raw = obj fields) ∧ ∀ n ∈ name :: names, raw.item n ≠ null := by
  have hobj : ∀ (fields : List (String × Json F)) (names : List String),
      requireFields missing (obj fields) names = .ok () ↔
        ∀ n ∈ names, (obj fields).item n ≠ null := by
    intro fields names
    induction names with
    | nil => exact iff_of_true rfl fun _ h => absurd h List.not_mem_nil
    | cons name names ih =>
        rw [requireFields, List.forall_mem_cons, ← ih, item, field_obj]
        cases (lookup fields name).getD null <;> simp
  cases hraw : raw with
  | obj fields => rw [hobj, and_iff_right ⟨fields, rfl⟩]
  -- `in` finds the name in the list or not, and `[name]` raises on it
  | arr items =>
      rw [requireFields]
      cases hany : items.any (isStr name) <;> simp [field, hany]
  -- so it does on a string
  | str s =>
      rw [requireFields]
      by_cases hinfix : name.toList <:+: s.toList <;> simp [field, hinfix]
  | _ => simp [requireFields, field]

variable {unsupported : R} {s : String}

/-- A name is accepted exactly if it is one of the supported strings. -/
theorem requireIn_eq_ok_iff :
    requireIn names unsupported v = .ok s ↔ v = str s ∧ s ∈ names := by
  cases v with
  | str s' =>
      rw [requireIn, str.injEq]
      split_ifs with h
      · rw [Except.ok.injEq]
        constructor
        · rintro rfl
          exact ⟨rfl, h⟩
        · exact fun h => h.1
      · refine iff_of_false (fun h => nomatch h) ?_
        rintro ⟨rfl, hs⟩
        exact h hs
  | _ => simp [requireIn]

/-- A value that must be one given string. -/
theorem requireIn_singleton_iff :
    requireIn [name] unsupported v = .ok s ↔ v = str name ∧ s = name := by
  rw [requireIn_eq_ok_iff, List.mem_singleton]
  constructor
  · rintro ⟨h, rfl⟩
    exact ⟨h, rfl⟩
  · rintro ⟨h, rfl⟩
    exact ⟨h, rfl⟩

/-- The membership test raises exactly on what has no hash. -/
theorem requireIn_eq_raised_iff :
    requireIn names unsupported v = .error (.raised exception) ↔
      exception = .typeError ∧ ¬ Hashable v := by
  cases v with
  | str s' =>
      rw [requireIn]
      split_ifs <;> simp [Hashable]
  | arr items => simp [requireIn, Hashable, eq_comm]
  | obj fields => simp [requireIn, Hashable, eq_comm]
  | _ => simp [requireIn, Hashable]

/-- A text is accepted or refused, and nothing else is raised. -/
theorem requireText_ne_raised {invalid : R} :
    requireText invalid v ≠ .error (.raised exception) := by
  cases v with
  | str s =>
      rw [requireText]
      split_ifs <;> exact fun h => nomatch h
  | _ => exact fun h => nomatch h

/-- It is accepted exactly if it is a string that is not empty. -/
theorem requireText_eq_ok_iff {invalid : R} {text : { s : String // s ≠ "" }} :
    requireText invalid v = .ok text ↔ v = str text.val := by
  cases v with
  | str s =>
      rw [requireText, str.injEq]
      split_ifs with h
      · rw [Except.ok.injEq, Subtype.ext_iff]
      · refine iff_of_false (fun h => nomatch h) ?_
        rintro rfl
        exact h text.property
  | _ => simp [requireText]

/-- A timestamp is accepted or refused, and nothing else is raised. -/
theorem requireTimestamp_ne_raised {malformed : R} :
    requireTimestamp malformed v ≠ .error (.raised exception) := by
  rw [requireTimestamp]
  split <;> exact fun h => nomatch h

/-- It is accepted exactly if it can be parsed. -/
theorem requireTimestamp_eq_ok_iff {malformed : R} {t : Datetime} :
    requireTimestamp malformed v = .ok t ↔ parseTimestamp? v = some t := by
  rw [requireTimestamp]
  split
  next t' h => rw [h, Except.ok.injEq, Option.some.injEq]
  next h => exact iff_of_false (fun h => nomatch h) (by rw [h]; exact fun h => nomatch h)

variable [PyFloat F] {notNumeric : R} {notFinite : F → R}

/-- A number cannot be made a float exactly if it is too large. -/
theorem toFloat_eq_error_iff (hnumber : v.isNumber = true) :
    v.toFloat = .error exception ↔ exception = .overflowError ∧ Oversized v := by
  cases v with
  | int n =>
      rw [toFloat, intToFloat]
      split_ifs with h
      · refine iff_of_false (fun h => nomatch h) ?_
        rintro ⟨-, m, hm, hlimit⟩
        cases hm
        omega
      · rw [Except.error.injEq, eq_comm]
        exact (and_iff_left ⟨n, rfl, Nat.le_of_not_lt h⟩).symm
  | float x => simp [toFloat, Oversized]
  | _ => exact absurd hnumber (by simp [isNumber])

/-- What becomes a float is a number. -/
theorem isNumber_of_toFloat {x : F} (h : v.toFloat = .ok x) : v.isNumber = true := by
  cases v with
  | int n => rfl
  | float x => rfl
  | _ => exact nomatch h

omit [PyFloat F] in
/-- What is too large is a number. -/
theorem Oversized.isNumber (h : Oversized v) : v.isNumber = true := by
  obtain ⟨n, rfl, -⟩ := h
  rfl

/-- A value is accepted exactly if it becomes a finite float. -/
theorem requireFiniteNumber_eq_ok_iff {x : { x : F // PyFloat.isfinite x = true }} :
    requireFiniteNumber notNumeric notFinite v = .ok x ↔ v.toFloat = .ok x.val := by
  rw [requireFiniteNumber]
  cases hnumber : v.isNumber with
  | false =>
      -- only numbers become floats
      refine iff_of_false (fun h => nomatch h) fun h => ?_
      rw [isNumber_of_toFloat h] at hnumber
      exact nomatch hnumber
  | true =>
      cases hfloat : v.toFloat with
      | error exception => exact iff_of_false (fun h => nomatch h) (fun h => nomatch h)
      | ok y =>
          simp only [Bool.not_true, Bool.false_eq_true, if_false, Except.ok.injEq]
          split_ifs with hfinite
          · rw [Except.ok.injEq, Subtype.ext_iff]
          · refine iff_of_false (fun h => nomatch h) ?_
            rintro rfl
            exact hfinite x.property

/-- The check of a number raises exactly on an integer without a nearest `float`. -/
theorem requireFiniteNumber_eq_raised_iff :
    requireFiniteNumber notNumeric notFinite v = .error (.raised exception) ↔
      exception = .overflowError ∧ Oversized v := by
  rw [requireFiniteNumber]
  cases hnumber : v.isNumber with
  | false =>
      refine iff_of_false (by simp) ?_
      rintro ⟨-, hoversized⟩
      rw [hoversized.isNumber] at hnumber
      exact nomatch hnumber
  | true =>
      rw [← toFloat_eq_error_iff hnumber]
      cases v.toFloat with
      | error exception' => simp
      | ok x =>
          simp only [Bool.not_true, Bool.false_eq_true, if_false]
          split_ifs <;> simp

end Lemmas

end Json

end Odis
