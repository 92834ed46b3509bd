import Decomment.Proofs.Toml.Tables
import Decomment.Toml.Codec

/-!
# Trees that come back

A table is a map from keys to values: read back from a text, its fields may stand in another order, and
those that are nothing are left out. `ComesBack` is equality of trees up to that, and a writer and a
reader belong together if each table that can be stored comes back (`Codec.RoundTrips`). This is all
that is asked of them; `codec_roundTrips` shows it of the pair that is built in.
-/

namespace Decomment.Toml

/-- A value, if it is one that is written. -/
def present? : Value → Option Value
  | .null => none
  | value => some value

/-- A tree is the same when it is read back. -/
inductive ComesBack : Value → Value → Prop
  | bool (b : Bool) : ComesBack (.bool b) (.bool b)
  | number (text : String) : ComesBack (.number text) (.number text)
  | moment (text : String) : ComesBack (.moment text) (.moment text)
  | string (text : String) : ComesBack (.string text) (.string text)
  /-- A list comes back in its order. -/
  | array {items backs : List Value} :
      List.Forall₂ ComesBack items backs → ComesBack (.array items) (.array backs)
  /-- A table has under each key what it had there, and nothing more. -/
  | table {fields backs : Fields} :
      (∀ key, Option.Rel ComesBack ((fields.lookup key).bind present?) (backs.lookup key)) →
      ComesBack (.table fields) (.table backs)

/-- **What is asked of a writer and a reader**: a table that can be stored has a text, and comes back
from it. -/
def Codec.RoundTrips (toml : Codec) : Prop :=
  ∀ levels fields, levels ≤ nestingLimit → Storable levels fields →
    ∃ text backs, toml.print? fields = some text ∧ toml.parse? text = some backs ∧
      ComesBack (.table fields) (.table backs)

/-! ## The built-in pair -/

theorem present?_of_plain {depth : Nat} {value : Value} (h : PlainValue depth value) :
    present? value = some value := by
  cases value with
  | null => cases depth <;> cases h
  | bool _ | number _ | moment _ | string _ | array _ | table _ => rfl

theorem comesBack_of_plain {depth : Nat} {value : Value} (h : PlainValue depth value) :
    ComesBack value value := by
  induction depth generalizing value with
  | zero =>
    cases value with
    | bool b => exact .bool b
    | string text => exact .string text
    | null | number _ | moment _ | array _ | table _ => cases h
  | succ depth ih =>
    cases value with
    | bool b => exact .bool b
    | string text => exact .string text
    | array items => exact .array (List.forall₂_same.2 fun item hitem => ih (h item hitem))
    | null | number _ | moment _ | table _ => cases h

/-- A table that is stored comes back. -/
theorem comesBack_settled {levels : Nat} {fields : Fields} (h : Storable levels fields) :
    ComesBack (.table fields) (.table (settled fields)) := by
  induction levels generalizing fields with
  | zero => cases h
  | succ levels ih =>
    obtain ⟨hnodup, hfields⟩ := h
    refine .table fun key => ?_
    rw [lookup_settled hnodup]
    match hvalue : fields.lookup key with
    | none => exact .none
    | some value =>
      obtain ⟨_, _, heq, -⟩ := List.lookup_eq_some_iff.1 hvalue
      obtain ⟨-, hstorable⟩ := hfields (key, value) (by simp [heq])
      rw [Option.bind_some, Option.bind_some]
      cases hstorable with
      | null => exact .none
      | plain hplain =>
        rw [present?_of_plain hplain, settledValue?_plain hplain]
        exact .some (comesBack_of_plain hplain)
      | table hinner =>
        rw [settledValue?_table]
        exact .some (ih hinner)
      | tables _ htables =>
        rw [settledValue?_tables]
        refine .some (.array ?_)
        rw [List.forall₂_map_left_iff, List.forall₂_map_right_iff, List.forall₂_same]
        exact fun inner hinner => ih (htables inner hinner)

/-- **The built-in writer and reader belong together.** -/
theorem codec_roundTrips : codec.RoundTrips := fun _ fields hlevels h =>
  ⟨print fields, settled fields, rfl, parse?_print h hlevels, comesBack_settled h⟩

end Decomment.Toml
