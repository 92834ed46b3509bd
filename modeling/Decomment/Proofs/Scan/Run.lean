import Decomment.Proofs.Scan.Opening

/-!
# Every scan comes to its end

Some steps of a scan do not move: a literal of one line closes in front of a line break, and a line
comment may have nothing after its marker. Such a step always leaves the construct it was in, so
`State.budget`, which counts every character left twice and a literal or a line comment once more,
gets smaller with each step (`State.step_progress`). It starts at twice the length of the text, and
three times that length is the number of steps that `scan` allows; so what a scan reaches when
nothing is left is what `scan` gives (`scan_eq_of_reaches`).
-/

namespace Decomment.Scan

/-- What a mode adds to the budget of its state. -/
def Mode.weight : Mode → Nat
  | .literal .. | .lineComment => 1
  | .code | .block .. => 0

/-- A block comment that the scan is in comes from the rules. -/
def Mode.Known (lexis : Lexis) : Mode → Prop
  | .block pair _ _ => pair ∈ lexis.blocks
  | .code | .literal .. | .lineComment => True

namespace State

variable {lexis : Lexis} {s t : State}

/-- A bound on the number of steps that are still to come. -/
def budget (s : State) : Nat :=
  2 * s.rest.length + s.mode.weight

@[simp] theorem rest_skip (s : State) (n : Nat) : (s.skip n).rest = s.rest.drop n := rfl
@[simp] theorem rest_keep (s : State) (n : Nat) : (s.keep n).rest = s.rest.drop n := rfl
@[simp] theorem mode_skip (s : State) (n : Nat) : (s.skip n).mode = s.mode := rfl
@[simp] theorem mode_keep (s : State) (n : Nat) : (s.keep n).mode = s.mode := rfl
@[simp] theorem rest_enter (s : State) (mode : Mode) : (s.enter mode).rest = s.rest := rfl
@[simp] theorem mode_enter (s : State) (mode : Mode) : (s.enter mode).mode = mode := rfl
@[simp] theorem rest_advise (s : State) (a : Advisory) : (s.advise a).rest = s.rest := rfl

/-! ## One step -/

variable (lexis s t) in
/-- The step from `s` to `t` uses up budget and stays within the rules. -/
structure Progress : Prop where
  known : t.mode.Known lexis
  budget_lt : t.budget < s.budget

/-- A step that reads a character makes progress, whatever mode it goes on in. -/
theorem Progress.of_advance {n : Nat} (hn : 0 < n) (hrest : s.rest ≠ [])
    (ht : t.rest = s.rest.drop n) (known : t.mode.Known lexis) : Progress lexis s t := by
  have hpos : 0 < s.rest.length := List.length_pos_iff.2 hrest
  have hweight : t.mode.weight ≤ 1 := by cases t.mode <;> simp [Mode.weight]
  refine ⟨known, ?_⟩
  rw [budget, budget, ht, List.length_drop]
  omega

/-- A step that leaves a literal or a line comment makes progress even if it reads nothing. -/
theorem Progress.of_leave {n : Nat} (hs : s.mode.weight = 1) (ht : t.rest = s.rest.drop n)
    (hmode : t.mode = .code) : Progress lexis s t := by
  refine ⟨by rw [hmode]; trivial, ?_⟩
  rw [budget, budget, ht, hmode, hs, List.length_drop, Mode.weight]
  omega

theorem length_pos_of_ne {token : String} (h : token ≠ "") : 0 < token.length := by
  rw [← String.length_toList, List.length_pos_iff]
  exact Text.toList_ne_nil h

theorem stepCode_progress (sound : lexis.Sound) (hmode : s.mode = .code) (hrest : s.rest ≠ []) :
    Progress lexis s (s.stepCode lexis) := by
  have htoken : ∀ o, lexis.opening? s.lineBlank s.read.head? s.rest = some o →
      0 < o.token.length := by
    intro o ho
    rw [← String.length_toList, List.length_pos_iff]
    exact (listed_of_opening? ho).token_ne_nil sound
  rw [stepCode]
  split
  · next ho => exact .of_advance (htoken _ ho) hrest rfl (listed_of_opening? ho)
  · next ho => exact .of_advance (htoken _ ho) hrest rfl trivial
  · next ho => exact .of_advance (htoken _ ho) hrest rfl trivial
  · exact .of_advance Nat.one_pos hrest rfl (by rw [mode_keep, hmode]; trivial)

theorem stepLiteral_progress {quote : Quote} {raw : Bool} {line : Nat}
    (hmode : s.mode = .literal quote raw line) (hrest : s.rest ≠ []) :
    Progress lexis s (s.stepLiteral lexis quote raw line) := by
  have hweight : s.mode.weight = 1 := by rw [hmode]; rfl
  rw [stepLiteral]
  split
  · exact .of_advance Nat.two_pos hrest rfl (by rw [mode_keep, hmode]; trivial)
  split
  · exact .of_leave hweight rfl rfl
  split
  · exact .of_leave (n := 0) hweight rfl rfl
  · exact .of_advance Nat.one_pos hrest rfl (by rw [mode_keep, hmode]; trivial)

theorem stepLine_progress (hmode : s.mode = .lineComment) : Progress lexis s s.stepLine :=
  .of_leave (by rw [hmode]; rfl) rfl rfl

theorem stepFlatBlock_progress {pair : BlockPair} {depth line : Nat} (hstop : pair.stop ≠ "")
    (hmode : s.mode = .block pair depth line) (hpair : pair ∈ lexis.blocks) (hrest : s.rest ≠ []) :
    Progress lexis s (s.stepFlatBlock pair) := by
  rw [stepFlatBlock]
  split
  · exact .of_advance (Nat.add_pos_right _ (length_pos_of_ne hstop)) hrest rfl trivial
  · refine .of_advance (List.length_pos_iff.2 hrest) hrest rfl ?_
    rw [mode_skip, hmode]
    exact hpair

theorem stepNestedBlock_progress {pair : BlockPair} {depth line : Nat} (hstart : pair.start ≠ "")
    (hstop : pair.stop ≠ "") (hmode : s.mode = .block pair depth line)
    (hpair : pair ∈ lexis.blocks) (hrest : s.rest ≠ []) :
    Progress lexis s (s.stepNestedBlock pair depth line) := by
  unfold stepNestedBlock
  split
  · refine .of_advance (length_pos_of_ne hstop) hrest rfl ?_
    cases depth with
    | zero => trivial
    | succ depth => exact hpair
  split
  · exact .of_advance (length_pos_of_ne hstart) hrest rfl hpair
  · exact .of_advance Nat.one_pos hrest rfl (by rw [mode_skip, hmode]; exact hpair)

/-- **Each step makes progress.** -/
theorem step_progress (sound : lexis.Sound) (known : s.mode.Known lexis) (hrest : s.rest ≠ []) :
    Progress lexis s (s.step lexis) := by
  rw [step]
  split
  · next hmode => exact stepCode_progress sound hmode hrest
  · next hmode => exact stepLiteral_progress hmode hrest
  · next hmode => exact stepLine_progress hmode
  · next pair depth line hmode =>
    have hpair : pair ∈ lexis.blocks := by simpa [hmode, Mode.Known] using known
    split
    · exact stepNestedBlock_progress (sound.start_ne hpair) (sound.stop_ne hpair) hmode hpair hrest
    · exact stepFlatBlock_progress (sound.stop_ne hpair) hmode hpair hrest

/-! ## A whole run -/

/-- A run of as many steps as the budget has leaves nothing to read. -/
theorem rest_run_eq_nil (sound : lexis.Sound) {fuel : Nat} (known : s.mode.Known lexis)
    (hfuel : s.budget ≤ fuel) : (s.run lexis fuel).rest = [] := by
  induction fuel generalizing s with
  | zero =>
    rw [run, ← List.length_eq_zero_iff]
    rw [budget] at hfuel
    omega
  | succ fuel ih =>
    rw [run]
    split
    · next hempty => exact List.isEmpty_iff.1 hempty
    · next hempty =>
      have hstep := step_progress sound known (fun h => hempty (List.isEmpty_iff.2 h))
      exact ih hstep.known (by have := hstep.budget_lt; omega)

theorem run_of_rest_eq_nil (h : s.rest = []) (fuel : Nat) : s.run lexis fuel = s := by
  cases fuel with
  | zero => rfl
  | succ fuel => rw [run, if_pos (List.isEmpty_iff.2 h)]

/-- The last step of a run, if something is left for it. -/
theorem run_succ (lexis : Lexis) (fuel : Nat) (s : State) :
    s.run lexis (fuel + 1) =
      if (s.run lexis fuel).rest.isEmpty then s.run lexis fuel
      else (s.run lexis fuel).step lexis := by
  induction fuel generalizing s with
  | zero => rfl
  | succ fuel ih =>
    by_cases h : s.rest.isEmpty = true
    · have hnil := List.isEmpty_iff.1 h
      rw [run_of_rest_eq_nil hnil, run_of_rest_eq_nil hnil, if_pos h]
    · rw [run, if_neg h, ih, run, if_neg h]

variable (lexis) in
/-- Some number of steps, each with something left to read, leads from one state to another. -/
inductive Reaches : State → State → Prop
  | refl (s : State) : Reaches s s
  | step {s t : State} : s.rest ≠ [] → Reaches (s.step lexis) t → Reaches s t

theorem Reaches.of_step (hrest : s.rest ≠ []) (hstep : s.step lexis = t) : Reaches lexis s t :=
  .step hrest (hstep ▸ .refl _)

theorem Reaches.trans {u : State} (hst : Reaches lexis s t) (htu : Reaches lexis t u) :
    Reaches lexis s u := by
  induction hst with
  | refl => exact htu
  | step hrest _ ih => exact .step hrest (ih htu)

variable (lexis s) in
/-- What a run comes to can be reached. -/
theorem reaches_run (fuel : Nat) : Reaches lexis s (s.run lexis fuel) := by
  induction fuel generalizing s with
  | zero => exact .refl s
  | succ fuel ih =>
    rw [run]
    split
    · exact .refl s
    · next hempty => exact .step (fun h => hempty (List.isEmpty_iff.2 h)) (ih (s.step lexis))

/-- What every step preserves, a run preserves. -/
theorem Reaches.preserves {P : State → Prop} (h : Reaches lexis s t)
    (hstep : ∀ u, P u → P (u.step lexis)) (hs : P s) : P t := by
  induction h with
  | refl => exact hs
  | step _ _ ih => exact ih (hstep _ hs)

/-- Every state of a run is on the way to its end. -/
theorem Reaches.to_end {u : State} (h : Reaches lexis s u) (hend : Reaches lexis s t)
    (ht : t.rest = []) : Reaches lexis u t := by
  induction h with
  | refl => exact hend
  | step hrest _ ih =>
    cases hend with
    | refl => exact absurd ht hrest
    | step _ hend => exact ih hend

/-- A run of as many steps as the budget has comes to the end that can be reached. -/
theorem Reaches.run_eq (sound : lexis.Sound) {fuel : Nat} (h : Reaches lexis s t)
    (known : s.mode.Known lexis) (hfuel : s.budget ≤ fuel) (ht : t.rest = []) :
    s.run lexis fuel = t := by
  induction h generalizing fuel with
  | refl => exact run_of_rest_eq_nil ht fuel
  | step hrest _ ih =>
    have hstep := step_progress sound known hrest
    have hlt := hstep.budget_lt
    cases fuel with
    | zero => omega
    | succ fuel =>
      rw [run, if_neg (by rwa [List.isEmpty_iff])]
      exact ih hstep.known (by omega) ht

end State

/-- What a scan reaches when nothing is left is what `scan` gives. -/
theorem scan_eq_of_reaches {lexis : Lexis} (sound : lexis.Sound) {text : List Char} {t : State}
    (h : State.Reaches lexis (.start text) t) (ht : t.rest = []) :
    scan lexis text = .ofState t := by
  rw [scan, h.run_eq sound trivial _ ht]
  simp only [State.budget, State.start, Mode.weight]
  omega

/-- A scan comes to its end, where everything was read. -/
theorem exists_reaches_end {lexis : Lexis} (sound : lexis.Sound) (text : List Char) :
    ∃ t, State.Reaches lexis (.start text) t ∧ t.rest = [] ∧ t.read.reverse = text ∧
      scan lexis text = .ofState t := by
  have hreach := State.reaches_run lexis (.start text) (2 * text.length)
  have hend : ((State.start text).run lexis (2 * text.length)).rest = [] :=
    State.rest_run_eq_nil sound trivial (Nat.le_refl _)
  refine ⟨_, hreach, hend, ?_, scan_eq_of_reaches sound hreach hend⟩
  have hinput := State.input_run lexis (2 * text.length) (.start text)
  rwa [State.input, hend, List.append_nil] at hinput

end Decomment.Scan
