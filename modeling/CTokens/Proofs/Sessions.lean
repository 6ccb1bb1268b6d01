import CTokens.Proofs.Faults

/-!
# CTokens — whole sessions

A session starts with a source and takes steps. What is kept by every step is kept by a session of
any length (`run_induction`), and where moreover every step succeeds so does the session
(`exists_run`).

Main results:

* `Explorer.ReachedBy.step` — what steps without writes make of a source, step by step;
* `Explorer.session_consistent` — keys, selections, scans and frames leave the parts of the state
  belonging together;
* `Explorer.exists_session_fitsWords` — a session meets no fault, whatever comes from outside;
* `Explorer.loop_of_quitting` — once the end is asked for, one more frame is drawn and nothing is
  answered;
* `Explorer.exists_explore_eq_session` — what the loop on a terminal does is a session, so that what
  holds of sessions holds of it; and `Explorer.exists_explore` — it meets no fault.
-/

namespace CTokens.Explorer

variable {e next : Explorer}

-- ---------------------------------------------------------------------------
-- Running
-- ---------------------------------------------------------------------------

theorem run_cons (e : Explorer) (a : Action) (actions : List Action) :
    e.run (a :: actions) = e.step a >>= fun next => next.run actions := List.foldlM_cons

@[simp] theorem run_singleton (e : Explorer) (a : Action) : e.run [a] = e.step a := by
  rw [run_cons]
  exact bind_pure _

theorem run_append (e : Explorer) (actions more : List Action) :
    e.run (actions ++ more) = e.run actions >>= fun reached => reached.run more :=
  List.foldlM_append

theorem run_concat (e : Explorer) (actions : List Action) (a : Action) :
    e.run (actions ++ [a]) = e.run actions >>= fun reached => reached.step a := by
  rw [run_append]
  congr 1
  exact funext fun reached => reached.run_singleton a

/-- What holds at first and is kept by every step holds after a run. It may speak of the steps that
were taken. -/
theorem run_induction {P : List Action → Explorer → Prop} {Q : Action → Prop} (hFirst : P [] e)
    (hStep : ∀ {history : List Action} {reached next : Explorer} {a : Action}, P history reached →
      Q a → reached.step a = .ok next → P (history ++ [a]) next)
    {actions : List Action} (hActions : ∀ a ∈ actions, Q a) (h : e.run actions = .ok next) :
    P actions next := by
  -- from the end, since the invariant speaks of the steps taken so far
  induction actions using List.reverseRecOn generalizing next with
  | nil =>
    cases h
    exact hFirst
  | append_singleton history a ih =>
    rw [run_concat] at h
    obtain ⟨reached, hReached, hLast⟩ := bind_eq_ok_iff.1 h
    have hHistory := ih (fun b hb => hActions b (List.mem_append_left [a] hb)) hReached
    exact hStep hHistory (hActions a (List.mem_append_right history List.mem_cons_self)) hLast

/-- Where every step succeeds and keeps what the next one needs, a run succeeds. -/
theorem exists_run {P : Explorer → Prop} {Q : Action → Prop}
    (hStep : ∀ {reached : Explorer} {a : Action}, P reached → Q a →
      ∃ next, reached.step a = .ok next ∧ P next)
    {actions : List Action} (hFirst : P e) (hActions : ∀ a ∈ actions, Q a) :
    ∃ next, e.run actions = .ok next ∧ P next := by
  induction actions generalizing e with
  | nil => exact ⟨e, rfl, hFirst⟩
  | cons a actions ih =>
    obtain ⟨reached, hReached, hHolds⟩ := hStep hFirst (hActions a List.mem_cons_self)
    obtain ⟨next, hNext, hEnd⟩ := ih hHolds fun b hb => hActions b (List.mem_cons_of_mem a hb)
    exact ⟨next, by rw [run_cons, hReached]; exact hNext, hEnd⟩

-- ---------------------------------------------------------------------------
-- What steps without writes lead to
-- ---------------------------------------------------------------------------

/-- What steps that write to no field make of a source. -/
structure ReachedBy (input : String) (keep : Bool) (history : List Action) (e : Explorer) :
    Prop where
  source : e.source = input
  consistent : e.Consistent
  /-- The wish about comments is turned round as often as the key for that is pressed. -/
  wish : e.keepComments = (keep ^^ decide (history.count (.press (.char 'c')) % 2 = 1))
  status : e.status = if .press (.char 'c') ∈ history then e.announcement else e.summary

/-- Where no step was taken yet, the source is explored as it was given. -/
theorem reachedBy_of_start {input : String} {keep : Bool} (h : start input keep = .ok e) :
    ReachedBy input keep [] e := by
  obtain ⟨hConsistent, hSource, -, hWish, hStatus⟩ := consistent_of_start h
  exact ⟨hSource, hConsistent, by simp [hWish], by rw [hStatus, if_neg List.not_mem_nil]⟩

theorem decide_odd_succ (n : Nat) : decide ((n + 1) % 2 = 1) = !decide (n % 2 = 1) := by
  rw [← decide_not]
  exact decide_eq_decide.2 (by omega)

/-- What one more step makes of a source. Only the key for comments turns the wish and writes a new
status. -/
theorem ReachedBy.step {input : String} {keep : Bool} {history : List Action}
    (h : ReachedBy input keep history e) {a : Action} (hUse : a.isWrite = false)
    (hStep : e.step a = .ok next) : ReachedBy input keep (history ++ [a]) next := by
  obtain ⟨hNext, hStays, hSaid⟩ := h.consistent.step hUse hStep
  refine ⟨hStays.trans h.source, hNext, ?wish, ?status⟩
  case wish =>
    rcases hSaid with ⟨rfl, hTurned, -⟩ | ⟨hOther, hSame, -⟩
    · rw [List.count_append, List.count_singleton_self, decide_odd_succ, Bool.xor_not, ← h.wish]
      exact hTurned
    · have hCount : (history ++ [a]).count (.press (.char 'c')) =
          history.count (.press (.char 'c')) := by simp [hOther]
      rw [hCount, hSame]
      exact h.wish
  case status =>
    rcases hSaid with ⟨rfl, -, hAnnounced⟩ | ⟨hOther, hSame, hKept⟩
    · rw [if_pos (List.mem_append_right history List.mem_cons_self)]
      exact hAnnounced
    · -- the tokens are the same as before, and so is what is said of them
      have hSummary := h.consistent.summary_eq hNext hStays hSame
      have hMem : .press (.char 'c') ∈ history ++ [a] ↔ .press (.char 'c') ∈ history := by
        simp [Ne.symm hOther]
      rw [hKept, h.status]
      simp only [hMem, announcement, hSummary, hSame]

-- ---------------------------------------------------------------------------
-- Sessions
-- ---------------------------------------------------------------------------

/-- A session without writes leads to what its steps make of the source. -/
theorem reachedBy_of_session {source : String} {keep : Bool} {actions : List Action}
    (h : session source keep actions = .ok e) (hUse : ∀ a ∈ actions, a.isWrite = false) :
    ReachedBy source keep actions e := by
  obtain ⟨first, hStart, hRun⟩ := bind_eq_ok_iff.1 h
  exact run_induction (P := ReachedBy source keep) (reachedBy_of_start hStart)
    (fun hReached => hReached.step) hUse hRun

/-- A session of admissible steps reaches a state that is fit for the next one. -/
theorem exists_session {source : String} {actions : List Action} (hSource : source.length < 2 ^ 63)
    (hActions : ∀ a ∈ actions, a.Admissible) (keep : Bool) :
    ∃ e, session source keep actions = .ok e ∧ e.InStep := by
  obtain ⟨m, -, hStart⟩ := exists_start source keep
  obtain ⟨e, hRun, hEnd⟩ := exists_run (P := InStep) (Q := Action.Admissible)
    (fun hReached hAction => hReached.exists_step hAction) (inStep_of_start hStart hSource) hActions
  exact ⟨e, bind_eq_ok_iff.2 ⟨_, hStart, hRun⟩, hEnd⟩

/-- **Sessions keep the explorer consistent.** Whatever is pressed, selected, scanned and drawn, the
source stays and the parts of the state belong together. The wish about comments is turned round as
often as the key for that is pressed, and the status is the census of the tokens, behind the last
choice about comments if there was one. A session of a source of fair length does reach a state. -/
theorem session_consistent (source : String) (keep : Bool) (actions : List Action)
    (hUse : ∀ a ∈ actions, a.isWrite = false) :
    (∀ e, session source keep actions = .ok e →
      e.source = source ∧ e.Consistent ∧
        e.keepComments = (keep ^^ decide (actions.count (.press (.char 'c')) % 2 = 1)) ∧
        e.status = if .press (.char 'c') ∈ actions then e.announcement else e.summary) ∧
      (source.length < 2 ^ 63 → (∀ a ∈ actions, a.Admissible) →
        ∃ e, session source keep actions = .ok e) := by
  refine ⟨?reached, ?reaches⟩
  case reached =>
    intro e hSession
    have hEnd := reachedBy_of_session hSession hUse
    exact ⟨hEnd.source, hEnd.consistent, hEnd.wish, hEnd.status⟩
  case reaches =>
    intro hSource hActions
    obtain ⟨e, hSession, -⟩ := exists_session hSource hActions keep
    exact ⟨e, hSession⟩

/-- A comment is turned into a token, and then a frame is drawn. -/
theorem session_consistent_of_toggle :
    ∃ e, session "a // b" false [.press .down, .press (.char 'c'), .draw 80 24] = .ok e ∧
      e.source = "a // b" ∧ e.Consistent ∧ e.keepComments = true ∧ e.status = e.announcement := by
  obtain ⟨hReached, hReaches⟩ := session_consistent "a // b" false
    [.press .down, .press (.char 'c'), .draw 80 24] (by decide)
  obtain ⟨e, hSession⟩ := hReaches (by decide) (by simp [Action.Admissible])
  exact ⟨e, hSession, hReached e hSession⟩

/-- **Sessions meet no fault.** Whatever comes from outside, in any order, every step of a session
succeeds, and the numbers of the state that it leaves are words. -/
theorem exists_session_fitsWords {source : String} {actions : List Action}
    (hSource : source.length < 2 ^ 63) (hActions : ∀ a ∈ actions, a.Admissible) (keep : Bool) :
    ∃ e, session source keep actions = .ok e ∧ e.FitsWords := by
  obtain ⟨e, hSession, hInStep⟩ := exists_session hSource hActions keep
  exact ⟨e, hSession, hInStep.fitsWords⟩

/-- The source is taken away and the view moved as far down as it goes; frames and keys go on. -/
theorem exists_session_fitsWords_of_stale_source :
    ∃ e, session "a\nb" false
        [.write (.source ""), .write (.scrollOffset Word.limit), .draw 80 24, .press .pageDown,
          .rescan, .draw 1 1] = .ok e ∧ e.FitsWords :=
  exists_session_fitsWords (by decide) (by simp [Action.Admissible]) false

-- ---------------------------------------------------------------------------
-- The loop
-- ---------------------------------------------------------------------------

/-- The steps that a round asks for: a frame, and the key that is pressed, if one is. -/
def Round.actions (r : Round) : List Action :=
  .draw r.width r.height ::
    match r.event with
    | some (.key key .press) => [.press key]
    | _ => []

/-- A round asks for nothing but frames and keys. -/
theorem Round.draw_or_press_of_mem_actions {r : Round} {a : Action} (h : a ∈ r.actions) :
    a = .draw r.width r.height ∨ ∃ key, a = .press key := by
  rcases List.mem_cons.1 h with rfl | hKey
  · exact .inl rfl
  · split at hKey
    · exact .inr ⟨_, List.mem_singleton.1 hKey⟩
    · cases hKey

/-- A round that is gone through takes the steps that it asks for. -/
theorem run_actions (e : Explorer) (r : Round) :
    e.run r.actions =
      e.step (.draw r.width r.height) >>= fun drawn => drawn.answer r.event := by
  obtain ⟨width, height, event⟩ := r
  rw [Round.actions, run_cons]
  congr 1
  funext drawn
  match event with
  | some (.key key .press) => exact drawn.run_singleton (.press key)
  | some (.key _ .hold) | some (.key _ .release) | some .other | none => rfl

/-- A round draws, and unless the explorer is to quit it answers and goes on. -/
theorem loop_cons (e : Explorer) (r : Round) (rounds : List Round) :
    e.loop (r :: rounds) =
      e.step (.draw r.width r.height) >>= fun drawn =>
        if drawn.quitting then .ok drawn
        else drawn.answer r.event >>= fun answered => answered.loop rounds := rfl

/-- Where the explorer goes on behind its frame, a round takes all of its steps. -/
theorem loop_cons_of_not_quitting {drawn : Explorer} {r : Round}
    (hDraw : e.step (.draw r.width r.height) = .ok drawn) (hStays : drawn.quitting = false)
    (rounds : List Round) :
    e.loop (r :: rounds) = e.run r.actions >>= fun answered => answered.loop rounds := by
  rw [loop_cons, run_actions, hDraw]
  exact if_neg (ne_true_of_eq_false hStays)

/-- Where the explorer is to quit, one more frame is drawn and nothing is answered. -/
theorem loop_of_quitting (h : e.quitting = true) (r : Round) (rounds : List Round) :
    e.loop (r :: rounds) = e.step (.draw r.width r.height) := by
  rw [loop_cons]
  cases hStep : e.step (.draw r.width r.height) with
  | error f => rfl
  | ok drawn =>
    have hStill : drawn.quitting = true := by
      obtain ⟨⟨frame, next⟩, hDraw, hEnd⟩ := bind_eq_ok_iff.1 hStep
      cases hEnd
      obtain ⟨scroll, -, rfl⟩ := eq_of_draw hDraw
      exact h
    exact if_pos hStill

/-- **The loop is a run.** It takes the steps that its rounds ask for, in their order, and no
others. Short of a fault it takes all of them, or it ends early since the explorer is to quit. -/
theorem exists_loop_eq_run (e : Explorer) (rounds : List Round) :
    ∃ actions, actions <+: rounds.flatMap Round.actions ∧ e.loop rounds = e.run actions ∧
      ∀ next, e.loop rounds = .ok next →
        next.quitting = true ∨ actions = rounds.flatMap Round.actions := by
  -- on the rounds, for the state that each of them begins with
  induction rounds generalizing e with
  | nil => exact ⟨[], List.prefix_refl [], rfl, fun _ _ => .inr rfl⟩
  | cons r rounds ih =>
    rw [List.flatMap_cons]
    -- a round may end at its frame, by a fault or since the explorer is to quit, or at its key, by
    -- a fault again; else it leads to the next one
    have hFrame : [.draw r.width r.height] <+: r.actions ++ rounds.flatMap Round.actions :=
      List.cons_prefix_cons.2 ⟨rfl, List.nil_prefix⟩
    cases hDraw : e.step (.draw r.width r.height) with
    | error f =>
      rw [loop_cons, hDraw]
      exact ⟨_, hFrame, ((run_singleton e _).trans hDraw).symm, nofun⟩
    | ok drawn =>
      cases hQuit : drawn.quitting with
      | true =>
        have hLoop : e.loop (r :: rounds) = e.step (.draw r.width r.height) := by
          rw [loop_cons, hDraw]
          exact if_pos hQuit
        rw [hLoop]
        refine ⟨_, hFrame, (run_singleton e _).symm, fun next hNext => .inl ?_⟩
        obtain rfl : drawn = next := Except.ok.inj (hDraw.symm.trans hNext)
        exact hQuit
      | false =>
        rw [loop_cons_of_not_quitting hDraw hQuit]
        cases hAnswer : e.run r.actions with
        | error f => exact ⟨r.actions, List.prefix_append _ _, hAnswer.symm, nofun⟩
        | ok answered =>
          obtain ⟨actions, hPrefix, hRun, hEnd⟩ := ih answered
          refine ⟨r.actions ++ actions, (List.prefix_append_right_inj _).2 hPrefix, ?_, ?_⟩
          · rw [run_append, hAnswer]
            exact hRun
          · exact fun next hNext => (hEnd next hNext).imp_right (congrArg (r.actions ++ ·))

/-- What the loop makes of a source is what a session makes of it, one without writes. -/
theorem exists_explore_eq_session (source : String) (keep : Bool) (rounds : List Round) :
    ∃ actions, actions <+: rounds.flatMap Round.actions ∧ (∀ a ∈ actions, a.isWrite = false) ∧
      explore source keep rounds = session source keep actions := by
  obtain ⟨m, -, hStart⟩ := exists_start source keep
  obtain ⟨actions, hPrefix, hLoop, -⟩ := exists_loop_eq_run _ rounds
  refine ⟨actions, hPrefix, fun a ha => ?_, ?_⟩
  · obtain ⟨r, -, hAction⟩ := List.mem_flatMap.1 (hPrefix.subset ha)
    rcases Round.draw_or_press_of_mem_actions hAction with rfl | ⟨key, rfl⟩
    · rfl
    · rfl
  · rw [explore, session, hStart]
    exact hLoop

/-- **The loop meets no fault.** Whatever is reported, it leaves the source, and parts of the state
that belong together, with numbers that are words. -/
theorem exists_explore {source : String} {rounds : List Round} (hSource : source.length < 2 ^ 63)
    (hScreen : ∀ r ∈ rounds, r.width < 2 ^ 16 ∧ r.height < 2 ^ 16) (keep : Bool) :
    ∃ e, explore source keep rounds = .ok e ∧ e.source = source ∧ e.Consistent ∧ e.FitsWords := by
  obtain ⟨actions, hPrefix, hUse, hExplore⟩ := exists_explore_eq_session source keep rounds
  have hActions : ∀ a ∈ actions, a.Admissible := by
    intro a ha
    obtain ⟨r, hr, hAction⟩ := List.mem_flatMap.1 (hPrefix.subset ha)
    rcases Round.draw_or_press_of_mem_actions hAction with rfl | ⟨key, rfl⟩
    · exact hScreen r hr
    · trivial
  obtain ⟨e, hSession, hInStep⟩ := exists_session hSource hActions keep
  have hReached := reachedBy_of_session hSession hUse
  exact ⟨e, hExplore.trans hSession, hReached.source, hReached.consistent, hInStep.fitsWords⟩

end CTokens.Explorer
