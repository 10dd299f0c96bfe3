import Mathlib.Data.List.Duplicate
import UnitHealth.Proofs.CommandLine.Given

/-!
# What arguments mention

An argument mentions switches and options by their long names or by their letters. What it mentions
is seen from the argument alone, wherever it stands: an argument that begins with a hyphen is never
the value of the option before it, and one that is a value mentions nothing.

Reading the arguments forgets no mention. Each one that is taken without complaint is kept, as a
switch that is on, an option that is settled or the option that waits. So what is accepted has been
mentioned as often as the command line gives it, which is once at most.
-/

namespace UnitHealth.CommandLine

/-- What a cluster of letters mentions. The letter of an option is the last one, since its value
follows. A letter that is not known mentions nothing. -/
def letterMentions : List Char → List Named
  | [] => []
  | c :: cs =>
    match Named.ofLetter? c with
    | none => letterMentions cs
    | some (.switch s) => .switch s :: letterMentions cs
    | some (.valued v) => [.valued v]

/-- What an argument mentions. -/
def mentions (argument : String) : List Named :=
  match argument.toList with
  | '-' :: '-' :: cs => (Named.ofLong? (cs.takeWhile (· ≠ '='))).toList
  | '-' :: cs => letterMentions cs
  | _ => []

section Mentions

variable {argument : String} {c : Char} {cs : List Char}

theorem mentions_long (text : argument.toList = '-' :: '-' :: cs) :
    mentions argument = (Named.ofLong? (cs.takeWhile (· ≠ '='))).toList := by
  simp [mentions, text]

theorem mentions_cluster (ne : c ≠ '-') (text : argument.toList = '-' :: c :: cs) :
    mentions argument = letterMentions (c :: cs) := by
  simp [mentions, text, ne]

theorem mentions_text (text : argument.toList = ['-'] ∨ argument.toList.head? ≠ some '-') :
    mentions argument = [] := by
  rw [mentions]
  obtain text | text := text
  · simp [text, letterMentions]
  · cases chars : argument.toList with
    | nil => rfl
    | cons first rest =>
        have ne : first ≠ '-' := by simpa [chars] using text
        simp [ne]

end Mentions

namespace Progress

/-- The switches and options that have been read, the one that waits among them. -/
def names (p : Progress) : List Named :=
  p.waiting.toList.map (fun w => .valued w.option) ++ p.options.names

variable {p q : Progress}

theorem names_of_waiting_eq_none (none : p.waiting = none) : p.names = p.options.names := by
  rw [names, none]
  rfl

/-- Settling the option that waits forgets none. -/
theorem names_of_settled (done : p.settled = .ok q) :
    q.waiting = none ∧ q.names.Perm p.names := by
  rw [Progress.settled] at done
  cases waiting : p.waiting with
  | none =>
      rw [waiting] at done
      obtain rfl := Except.ok.inj done
      exact ⟨waiting, .refl _⟩
  | some w =>
      rw [waiting] at done
      obtain ⟨options, settled, rfl⟩ := Steps.map_eq_ok_iff.mp done
      obtain ⟨value, -, fresh, -, rfl⟩ := settle_eq_ok_iff.mp settled
      refine ⟨rfl, ?_⟩
      rw [names, names, waiting]
      rw [← Given.named_ofValued w.option value] at fresh
      simpa using perm_names_add fresh

/-- What is added while no option waits is named besides what was named before. -/
theorem names_add {g : Given} (none : p.waiting = none) (fresh : g.named ∉ p.options.names) :
    ({ p with options := p.options.add g } : Progress).names.Perm (g.named :: p.names) := by
  rw [names, names, none]
  exact perm_names_add fresh

theorem names_of_takeSwitch {s : Switch} (done : p.takeSwitch s = .ok q) :
    q.names.Perm (.switch s :: p.names) := by
  obtain ⟨r, settled, on⟩ := Steps.bind_eq_ok_iff.mp done
  obtain ⟨none, kept⟩ := names_of_settled settled
  obtain ⟨g, named, fresh, rfl⟩ := turnOn_eq_ok_iff.mp on
  rw [← named]
  exact (names_add none fresh).trans (kept.cons _)

theorem names_of_takeValue {v : Valued} {value : String} (done : p.takeValue v value = .ok q) :
    q.names.Perm (.valued v :: p.names) := by
  obtain ⟨r, settled, rest⟩ := Steps.bind_eq_ok_iff.mp done
  obtain ⟨none, kept⟩ := names_of_settled settled
  obtain ⟨options, added, rest⟩ := Steps.bind_eq_ok_iff.mp rest
  obtain rfl := Except.ok.inj rest
  obtain ⟨value', -, fresh, -, rfl⟩ := settle_eq_ok_iff.mp added
  rw [← Given.named_ofValued v value'] at fresh ⊢
  exact (names_add none fresh).trans (kept.cons _)

theorem names_of_await {v : Valued} (done : p.await v = .ok q) :
    q.names.Perm (.valued v :: p.names) := by
  obtain ⟨r, settled, rest⟩ := Steps.bind_eq_ok_iff.mp done
  obtain rfl := Except.ok.inj rest
  obtain ⟨none, kept⟩ := names_of_settled settled
  rw [names_of_waiting_eq_none none] at kept
  exact kept.cons _

theorem names_of_takeText {text : String} (done : p.takeText text = .ok q) : q.names = p.names := by
  rw [takeText] at done
  split at done
  · next waiting =>
    obtain rfl := Except.ok.inj done
    rw [names, names, waiting]
    rfl
  · cases done

theorem names_of_takeLong {cs : List Char} (done : p.takeLong cs = .ok q) :
    q.names.Perm ((Named.ofLong? (cs.takeWhile (· ≠ '='))).toList ++ p.names) := by
  simp only [takeLong] at done
  split at done
  · cases done
  · next named _ =>
    rw [named]
    exact names_of_takeSwitch done
  · cases done
  · next named _ =>
    rw [named]
    exact names_of_await done
  · next named _ =>
    rw [named]
    exact names_of_takeValue done

theorem names_of_takeCluster {cs : List Char} (done : p.takeCluster cs = .ok q) :
    q.names.Perm (letterMentions cs ++ p.names) := by
  induction cs generalizing p with
  | nil =>
      obtain rfl := Except.ok.inj done
      exact .refl _
  | cons c cs ih =>
      rw [takeCluster] at done
      rw [letterMentions]
      cases letter : Named.ofLetter? c with
      | none =>
          rw [letter] at done
          cases done
      | some n =>
          rw [letter] at done
          cases n with
          | switch s =>
              obtain ⟨r, first, rest⟩ := Steps.bind_eq_ok_iff.mp done
              -- The switch was taken before the letters after it, and is counted before them.
              have later := (names_of_takeSwitch first).append_left (letterMentions cs)
              exact (ih rest).trans (later.trans List.perm_middle)
          | valued v =>
              dsimp only at done
              split at done
              · exact names_of_await done
              · exact names_of_takeValue done

/-- An argument that is taken leaves its mentions, besides those before. -/
theorem names_of_take {argument : String} (done : p.take argument = .ok q) :
    q.names.Perm (mentions argument ++ p.names) := by
  cases unclosed : p.closed with
  | true => simp [unclosed] at done
  | false =>
      obtain text | ⟨cs, ne, text⟩ | ⟨c, cs, ne, text⟩ | text := argument_cases argument.toList
      · rw [take_hyphens unclosed text] at done
        obtain rfl := Except.ok.inj done
        rw [mentions_long text]
        exact .refl _
      · rw [take_long unclosed ne text] at done
        rw [mentions_long text]
        exact names_of_takeLong done
      · rw [take_cluster unclosed ne text] at done
        rw [mentions_cluster ne text]
        exact names_of_takeCluster done
      · rw [take_text unclosed text] at done
        rw [mentions_text text, names_of_takeText done]
        exact .refl _

/-- Arguments that are taken one after the other leave all their mentions. -/
theorem names_of_foldlM_take {arguments : List String} (done : arguments.foldlM take p = .ok q) :
    q.names.Perm (arguments.flatMap mentions ++ p.names) := by
  induction arguments generalizing p with
  | nil =>
      obtain rfl := Except.ok.inj done
      exact .refl _
  | cons argument arguments ih =>
      rw [List.foldlM_cons, Steps.bind_eq_ok_iff] at done
      obtain ⟨r, first, rest⟩ := done
      have later := (names_of_take first).append_left (arguments.flatMap mentions)
      refine (ih rest).trans (later.trans ?_)
      rw [List.flatMap_cons, ← List.append_assoc]
      exact List.perm_append_comm.append_right _

end Progress

theorem perm_names_of_parse {arguments : List String} {line : CommandLine}
    (accepted : parse arguments = .ok line) : (arguments.flatMap mentions).Perm line.names := by
  obtain ⟨p, taken, rest⟩ := Steps.bind_eq_ok_iff.mp accepted
  obtain ⟨q, settled, rest⟩ := Steps.bind_eq_ok_iff.mp rest
  obtain rfl := Except.ok.inj rest
  obtain ⟨none, kept⟩ := Progress.names_of_settled settled
  have all := Progress.names_of_foldlM_take taken
  rw [← Progress.names_of_waiting_eq_none none]
  exact (kept.trans (all.trans (by simp [Progress.names, Progress.start]))).symm

/-- Arguments that mention anything twice are not accepted. -/
theorem exists_parse_eq_error {arguments : List String} {n : Named}
    (twice : List.Duplicate n (arguments.flatMap mentions)) :
    ∃ stop, parse arguments = .error stop := by
  cases outcome : parse arguments with
  | error stop => exact ⟨stop, rfl⟩
  | ok line =>
      have distinct := (perm_names_of_parse outcome).nodup_iff.mpr (nodup_names line)
      exact absurd twice (List.nodup_iff_forall_not_duplicate.mp distinct n)

end UnitHealth.CommandLine
