import Decomment.Error

/-!
# Standard output

What is printed goes out as bytes. `Sink` says what standard output does with them: it takes all that
it is given, or it fails, and then it may have taken some of the first ones.
-/

namespace Decomment

/-- The bytes of a text. -/
def bytesOf (text : String) : List UInt8 :=
  text.toUTF8.data.toList

/-- Standard output, by what it does with bytes that it is given. -/
structure Sink where
  /-- Why it does not take all of the bytes given after those that it has taken, if it does not, and
  how many of them it takes. -/
  fails? : (taken given : List UInt8) → Option (OutputError × Nat) := fun _ _ => none

namespace Sink

/-- Gives a text to standard output, after what it has taken. Gives what it has taken then, and why
that is not all. -/
def write (sink : Sink) (taken : List UInt8) (text : String) : List UInt8 × Option OutputError :=
  match sink.fails? taken (bytesOf text) with
  | none => (taken ++ bytesOf text, none)
  | some (cause, count) => (taken ++ (bytesOf text).take count, some cause)

/-- It takes all that it is given. -/
def Open (sink : Sink) : Prop :=
  ∀ taken given, sink.fails? taken given = none

/-- A text that it does not take as a whole it does not take at all. -/
def Whole (sink : Sink) : Prop :=
  ∀ taken given cause count, sink.fails? taken given = some (cause, count) → count = 0

variable {sink : Sink}

/-- Of a text that it does not take as a whole, standard output takes a first part, and then it is one
that can fail. -/
theorem write_cases (sink : Sink) (taken : List UInt8) (text : String) :
    sink.write taken text = (taken ++ bytesOf text, none) ∨
      ∃ part cause, sink.write taken text = (taken ++ part, some cause) ∧ part <+: bytesOf text ∧
        ¬ sink.Open ∧ (sink.Whole → part = []) := by
  rw [write]
  match hfails : sink.fails? taken (bytesOf text) with
  | none => exact .inl rfl
  | some (cause, count) =>
    refine .inr ⟨_, cause, rfl, List.take_prefix .., fun hopen => ?_, fun hwhole => ?_⟩
    · cases hfails.symm.trans (hopen taken (bytesOf text))
    · rw [hwhole _ _ _ _ hfails, List.take_zero]

end Sink

end Decomment
