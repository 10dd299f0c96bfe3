import Mathlib.Data.List.ReduceOption
import UnitHealth.Manager.Session
import UnitHealth.Proofs.Manager.Replies

/-!
# Histories

A caller connects and enumerates as often as it likes, through the one client that it has, while the
machine changes in any way between two operations. It holds the managers that its connections gave
it, and enumerates through any of them. Its history is what it does, operation by operation.

An operation carries nothing over to the next but the client. So it asks its own question once, and
what comes of it is told by the reply to that question, whatever was asked and answered before. A
manager is held exactly when some connection before was answered with exit code zero, and an
enumeration that fails spoils none.

A session keeps the manager of its last connection only, and loses it when a connection fails. What
it carries out is the history of one such caller.
-/

namespace UnitHealth

/-! ## Operations -/

/-- The arguments of the question that a request puts. -/
def Request.question : Request → List String
  | connect _ => ["show", "--property=Version", "--value"]
  | listUnits => ["list-units", "--all", "--full", "--plain", "--no-legend", "--no-pager"]

/-- What a reply to the question of a request means. -/
def Request.answer (program : String) : Request → Reply → Answer
  | connect _, reply => .connection ((Systemctl.versionOf program reply).map fun _ => ⟨⟩)
  | listUnits, reply => .units (Systemctl.unitsOf program reply)

/-- An operation: the machine as it is then, the request, and what comes of it. -/
structure Exchange where
  host : Host
  request : Request
  outcome : Traced Answer

namespace Exchange

variable (client : Systemctl) (x : Exchange)

/-- The question of an operation, put through a client. -/
def call : Invocation :=
  ⟨client.program, client.arguments ++ x.request.question⟩

/-- The reply of the machine to the question of an operation. -/
def reply : Reply :=
  x.host.spawn (x.call client).program (x.call client).arguments

/-- Whether an operation is a connection that is answered with exit code zero. -/
def Connects : Prop :=
  x.request = .connect client ∧ (x.reply client).Succeeds

end Exchange

/-! ## Steps -/

/-- An operation of a caller that holds some managers, with the managers that it holds then. -/
inductive Takes (client : Systemctl) (held : List Manager) : Exchange → List Manager → Prop where
  /-- A connection gives a manager. -/
  | connected {manager : Manager} (host : Host)
      (reached : (Manager.connect host client).result = .ok manager) :
      Takes client held
        ⟨host, .connect client, (Manager.connect host client).steps, .connection (.ok ⟨⟩)⟩
        (held ++ [manager])
  /-- A connection fails, and the managers of earlier ones stay. -/
  | refused {e : ConnectError} (host : Host)
      (failed : (Manager.connect host client).result = .error e) :
      Takes client held
        ⟨host, .connect client, (Manager.connect host client).steps, .connection (.error e)⟩ held
  /-- The units are enumerated through one of the managers. -/
  | listed {manager : Manager} (mem : manager ∈ held) (host : Host) :
      Takes client held
        ⟨host, .listUnits, (Manager.listUnits host manager).steps,
          .units (Manager.listUnits host manager).result⟩ held

/-- The operations of a caller from some held managers on. -/
inductive History (client : Systemctl) :
    List Manager → List Exchange → List Manager → Prop where
  | done (held : List Manager) : History client held [] held
  | next {held mid held' : List Manager} {x : Exchange} {log : List Exchange}
      (first : Takes client held x mid) (rest : History client mid log held') :
      History client held (x :: log) held'

variable {client : Systemctl} {held held' : List Manager} {x : Exchange} {log : List Exchange}

namespace Takes

/-- One operation asks its own question, once. -/
theorem invocations_eq (own : ∀ manager ∈ held, manager = ⟨client⟩)
    (h : Takes client held x held') : x.outcome.invocations = [x.call client] := by
  cases h with
  | connected host reached => exact Manager.invocations_connect host client
  | refused host failed => exact Manager.invocations_connect host client
  | listed mem host =>
      obtain rfl := own _ mem
      rfl

/-- The reply to its own question tells what comes of an operation. -/
theorem result_eq (own : ∀ manager ∈ held, manager = ⟨client⟩) (h : Takes client held x held') :
    x.outcome.result = x.request.answer client.program (x.reply client) := by
  cases h with
  | connected host reached =>
      obtain ⟨-, version, reached⟩ := Manager.result_connect_eq_ok_iff.mp reached
      exact congrArg (fun r => Answer.connection (r.map fun _ => ⟨⟩)) reached.symm
  | refused host failed =>
      have failed := Manager.result_connect_eq_error_iff.mp failed
      exact congrArg (fun r => Answer.connection (r.map fun _ => ⟨⟩)) failed.symm
  | listed mem host =>
      obtain rfl := own _ mem
      rfl

/-- A connection that is answered with exit code zero gives a manager, and nothing else does. -/
theorem mem_iff (h : Takes client held x held') {manager : Manager} :
    manager ∈ held' ↔ manager ∈ held ∨ manager = ⟨client⟩ ∧ x.Connects client := by
  cases h with
  | connected host reached =>
      obtain ⟨rfl, answered⟩ := Manager.result_connect_eq_ok_iff.mp reached
      have success := (Systemctl.exists_versionOf_eq_ok_iff client.program).mp answered
      rw [List.mem_append, List.mem_singleton, and_iff_left ⟨rfl, success⟩]
  | refused host failed =>
      have failed := Manager.result_connect_eq_error_iff.mp failed
      have failure := (Systemctl.exists_versionOf_eq_error_iff client.program).mp ⟨_, failed⟩
      exact (or_iff_left fun h => failure h.2.2).symm
  | listed mem host => exact (or_iff_left fun h => by cases h.2.1).symm

theorem request_eq (h : Takes client held x held') :
    x.request = .connect client ∨ x.request = .listUnits := by
  cases h with
  | connected | refused => exact .inl rfl
  | listed => exact .inr rfl

theorem exists_mem (h : Takes client held x held') (lists : x.request = .listUnits) :
    ∃ manager, manager ∈ held := by
  cases h with
  | connected | refused => cases lists
  | listed mem host => exact ⟨_, mem⟩

theorem own (own : ∀ manager ∈ held, manager = ⟨client⟩) (h : Takes client held x held') :
    ∀ manager ∈ held', manager = ⟨client⟩ := by
  intro manager mem
  obtain before | ⟨new, -⟩ := h.mem_iff.mp mem
  · exact own manager before
  · exact new

end Takes

namespace History

theorem split {after : List Exchange} (h : History client held (log ++ after) held') :
    ∃ mid, History client held log mid ∧ History client mid after held' := by
  induction log generalizing held with
  | nil => exact ⟨held, .done held, h⟩
  | cons x log ih =>
      obtain _ | ⟨first, rest⟩ := h
      obtain ⟨mid, before, after⟩ := ih rest
      exact ⟨mid, .next first before, after⟩

/-- Every operation of a history is a step of a caller whose managers are those of the client. -/
theorem exists_takes (own : ∀ manager ∈ held, manager = ⟨client⟩)
    (h : History client held log held') :
    ∀ x ∈ log, ∃ before after, (∀ manager ∈ before, manager = ⟨client⟩) ∧
      Takes client before x after := by
  induction h with
  | done => simp
  | next first _ ih =>
      exact List.forall_mem_cons.mpr ⟨⟨_, _, own, first⟩, ih (first.own own)⟩

/-- The managers that are held at last are those held at first and, when some connection was
answered with exit code zero, that of the client. -/
theorem mem_iff (h : History client held log held') {manager : Manager} :
    manager ∈ held' ↔ manager ∈ held ∨ manager = ⟨client⟩ ∧ ∃ x ∈ log, x.Connects client := by
  induction h with
  | done => simp
  | next first _ ih =>
      rw [ih, first.mem_iff, or_assoc, ← and_or_left, List.exists_mem_cons_iff]

end History

/-! ## Answers -/

namespace Request

variable {program : String} {reply : Reply}

theorem answer_connect_eq_ok_iff :
    (Request.connect client).answer program reply = .connection (.ok ⟨⟩) ↔ reply.Succeeds := by
  rw [← Systemctl.exists_versionOf_eq_ok_iff program, answer]
  cases Systemctl.versionOf program reply <;> simp [Except.map]

theorem answer_listUnits_eq_ok_iff {units : List ManagedUnit} :
    listUnits.answer program reply = .units (.ok units) ↔
      ∃ text, reply.Lists text ∧ Listing.read text = .ok units := by
  rw [← Systemctl.unitsOf_eq_ok_iff program, answer, Answer.units.injEq]

end Request

/-- What holds of a history from its beginning, with the managers that are held at its end. -/
structure Stateless (client : Systemctl) (log : List Exchange) (held : List Manager) : Prop where
  /-- An operation asks its own question through the client, once, and asks nothing else. -/
  asked : ∀ x ∈ log, x.outcome.invocations =
    [⟨client.program, client.arguments ++ x.request.question⟩]
  /-- What comes of it is a function of the reply to this question. -/
  answered : ∀ x ∈ log, x.outcome.result = x.request.answer client.program (x.reply client)
  /-- It connects exactly when the reply has exit code zero. -/
  connected : ∀ x ∈ log, x.outcome.result = .connection (.ok ⟨⟩) ↔ x.Connects client
  /-- It gives units exactly when the reply lists a text, and gives those of the text. -/
  listed : ∀ x ∈ log, ∀ units, x.outcome.result = .units (.ok units) ↔
    x.request = .listUnits ∧ ∃ text, (x.reply client).Lists text ∧ Listing.read text = .ok units
  /-- There is a manager exactly when some operation has connected, and it has the client alone. -/
  managers : ∀ manager, manager ∈ held ↔ manager = ⟨client⟩ ∧ ∃ x ∈ log, x.Connects client
  /-- The units are enumerated only after an operation that has connected. -/
  earlier : ∀ before x after, log = before ++ x :: after → x.request = .listUnits →
    ∃ y ∈ before, y.Connects client
  /-- Whatever has happened, each manager enumerates the units as soon as a reply lists them. -/
  usable : ∀ manager ∈ held, ∀ host text,
    (host.spawn client.program (client.arguments ++ Request.listUnits.question)).Lists text →
      ∃ units, Listing.read text = .ok units ∧
        (Manager.listUnits host manager).result = .ok units ∧
        Takes client held
          ⟨host, .listUnits, (Manager.listUnits host manager).steps, .units (.ok units)⟩ held

theorem History.stateless (h : History client [] log held) : Stateless client log held where
  asked x mem := by
    obtain ⟨before, after, own, step⟩ := h.exists_takes (by simp) x mem
    exact step.invocations_eq own
  answered x mem := by
    obtain ⟨before, after, own, step⟩ := h.exists_takes (by simp) x mem
    exact step.result_eq own
  connected x mem := by
    obtain ⟨before, after, own, step⟩ := h.exists_takes (by simp) x mem
    rw [step.result_eq own, Exchange.Connects]
    obtain request | request := step.request_eq
    · rw [request, Request.answer_connect_eq_ok_iff, and_iff_right rfl]
    · rw [request]
      simp [Request.answer]
  listed x mem units := by
    obtain ⟨before, after, own, step⟩ := h.exists_takes (by simp) x mem
    rw [step.result_eq own]
    obtain request | request := step.request_eq
    · rw [request]
      simp [Request.answer]
    · rw [request, Request.answer_listUnits_eq_ok_iff, and_iff_right rfl]
  managers manager := by
    rw [h.mem_iff, or_iff_right List.not_mem_nil]
  earlier before x after split lists := by
    subst split
    obtain ⟨mid, first, rest⟩ := h.split
    obtain _ | ⟨step, -⟩ := rest
    obtain ⟨manager, mem⟩ := step.exists_mem lists
    rw [first.mem_iff, or_iff_right List.not_mem_nil] at mem
    exact mem.2
  usable manager mem host text lists := by
    have own := mem
    rw [h.mem_iff, or_iff_right List.not_mem_nil] at own
    obtain ⟨rfl, -⟩ := own
    have accepted := Listing.read_of_complete lists.complete
    have result : (Manager.listUnits host ⟨client⟩).result = .ok _ :=
      (Systemctl.unitsOf_eq_ok_iff client.program).mpr ⟨text, lists, accepted⟩
    refine ⟨_, accepted, result, ?_⟩
    rw [← result]
    exact .listed mem host

/-! ## Sessions -/

namespace Session

/-- The operation that a request with its outcome is. One that finds no manager to ask is none. -/
def exchange? (request : Host × Request) (outcome : Traced Answer) : Option Exchange :=
  match outcome.result with
  | .notConnected => none
  | _ => some ⟨request.1, request.2, outcome⟩

/-- The operations that a session carries out. -/
def exchanges (session : Session) (requests : List (Host × Request)) : List Exchange :=
  (List.zipWith exchange? requests (session.run requests)).reduceOption

theorem exchange?_of_ne {request : Host × Request} {outcome : Traced Answer}
    (answered : outcome.result ≠ .notConnected) :
    exchange? request outcome = some ⟨request.1, request.2, outcome⟩ := by
  rw [exchange?]
  split
  · next idle => exact absurd idle answered
  · rfl

theorem step_connect (session : Session) (host : Host) (client : Systemctl) :
    session.step host (.connect client) = ⟨(Manager.connect host client).steps,
      match (Manager.connect host client).result with
      | .error e => (.connection (.error e), none)
      | .ok manager => (.connection (.ok ⟨⟩), some manager)⟩ := by
  -- The equation of a composition is for its steps and its result apart.
  have steps : (session.step host (.connect client)).steps =
      (Manager.connect host client).steps := by
    rw [step, Traced.steps_bind]
    cases (Manager.connect host client).result <;> simp
  have result : (session.step host (.connect client)).result =
      match (Manager.connect host client).result with
      | .error e => (.connection (.error e), none)
      | .ok manager => (.connection (.ok ⟨⟩), some manager) := by
    rw [step, Traced.result_bind]
    cases (Manager.connect host client).result <;> rfl
  exact congrArg₂ Traced.mk steps result

/-- A request finds no manager and nothing happens, or it is carried out as an operation of a caller
that holds the manager of the session. -/
theorem step_cases {session : Session} (kept : ∀ manager, session = some manager → manager ∈ held)
    (host : Host) {request : Request} (mine : ∀ other, request = .connect other → other = client) :
    session.step host request = ⟨[], .notConnected, none⟩ ∨
      ∃ outcome session' held',
        session.step host request = ⟨outcome.steps, outcome.result, session'⟩ ∧
        outcome.result ≠ .notConnected ∧ Takes client held ⟨host, request, outcome⟩ held' ∧
        ∀ manager, session' = some manager → manager ∈ held' := by
  cases request with
  | connect other =>
      obtain rfl := mine other rfl
      rw [step_connect]
      refine .inr ?_
      cases reached : (Manager.connect host other).result with
      | error e => exact ⟨_, none, held, rfl, by simp, .refused host reached, by simp⟩
      | ok manager =>
          exact ⟨_, some manager, _, rfl, by simp, .connected host reached, by simp⟩
  | listUnits =>
      cases session with
      | none => exact .inl rfl
      | some manager =>
          exact .inr ⟨_, some manager, held, rfl, by simp,
            .listed (kept manager rfl) host, kept⟩

theorem exists_history {session : Session}
    (kept : ∀ manager, session = some manager → manager ∈ held) {requests : List (Host × Request)}
    (mine : ∀ host other, (host, Request.connect other) ∈ requests → other = client) :
    ∃ held', History client held (session.exchanges requests) held' := by
  induction requests generalizing session held with
  | nil => exact ⟨held, .done held⟩
  | cons first rest ih =>
      obtain ⟨host, request⟩ := first
      have later : ∀ host other, (host, Request.connect other) ∈ rest → other = client :=
        fun host other mem => mine host other (List.mem_cons_of_mem _ mem)
      have mine : ∀ other, request = .connect other → other = client := fun other eq =>
        mine host other (eq ▸ List.mem_cons_self)
      rw [exchanges, run]
      obtain idle | ⟨outcome, session', held', stepped, answered, takes, kept'⟩ :=
        step_cases kept host mine
      · rw [idle]
        exact ih nofun later
      · obtain ⟨last, history⟩ := ih kept' later
        rw [stepped]
        refine ⟨last, ?_⟩
        rw [List.zipWith_cons_cons, exchange?_of_ne answered, List.reduceOption_cons_of_some]
        exact .next takes history

/-- A request that finds no manager to ask does nothing. -/
theorem steps_eq_nil_of_notConnected {session : Session} {host : Host} {request : Request}
    (idle : (session.step host request).result.1 = .notConnected) :
    (session.step host request).steps = [] := by
  cases request with
  | connect client =>
      rw [step_connect] at idle
      cases reached : (Manager.connect host client).result <;> simp [reached] at idle
  | listUnits =>
      cases session with
      | none => rfl
      | some manager => cases idle

theorem forall_mem_run_of_notConnected (session : Session) (requests : List (Host × Request)) :
    ∀ t ∈ session.run requests, t.result = .notConnected → t.invocations = [] := by
  induction requests generalizing session with
  | nil => simp
  | cons first rest ih =>
      refine List.forall_mem_cons.mpr ⟨fun idle => ?_, ih _⟩
      exact congrArg (List.filterMap Step.invocation?) (steps_eq_nil_of_notConnected idle)

end Session

/-- Histories of any length and with any failures in them carry nothing over but the client. Every
operation asks its own question once and comes to what the reply to this question means, a manager
is held exactly when some connection was answered with exit code zero, and it stays usable. What a
session carries out for one client is such a history, and for other requests it asks nothing. -/
theorem histories_stateless (client : Systemctl) :
    (∀ log held, History client [] log held → Stateless client log held) ∧
      ∀ requests, (∀ host other, (host, Request.connect other) ∈ requests → other = client) →
        (∃ held, History client [] (Session.exchanges none requests) held) ∧
          ∀ t ∈ Session.run none requests, t.result = .notConnected → t.invocations = [] :=
  ⟨fun _ _ => History.stateless, fun requests mine =>
    ⟨Session.exists_history (by simp) mine, Session.forall_mem_run_of_notConnected none requests⟩⟩

/-- After an enumeration that failed, the manager is still there and the next enumeration gives the
units of the reply that it gets. -/
theorem histories_stateless_of_failure :
    ∃ (client : Systemctl) (down good : Host) (log : List Exchange) (held : List Manager),
      client = ⟨"sh", ["fake.sh"]⟩ ∧
      down = ⟨fun _ => .error .notFound, fun _ arguments => .ok
        (if "list-units" ∈ arguments then ⟨some 1, [], Text.encode "no bus"⟩
          else ⟨some 0, [], []⟩)⟩ ∧
      good = ⟨fun _ => .error .notFound, fun _ _ =>
        .ok ⟨some 0, Text.encode "a.service loaded failed dead", []⟩⟩ ∧
      log = Session.exchanges none
        [(down, .connect client), (down, .listUnits), (good, .listUnits)] ∧
      History client [] log held ∧ ⟨client⟩ ∈ held ∧
      log.map (fun x => x.outcome.result) =
        [.connection (.ok ⟨⟩), .units (.error (.commandFailed (some 1) "no bus")),
          .units (.ok [.ofColumns "a.service" "loaded" "failed" "dead" ""])] := by
  obtain ⟨client, client_eq⟩ : ∃ client : Systemctl, client = ⟨"sh", ["fake.sh"]⟩ := ⟨_, rfl⟩
  obtain ⟨down, down_eq⟩ : ∃ host : Host, host =
      ⟨fun _ => .error .notFound, fun _ arguments => .ok
        (if "list-units" ∈ arguments then ⟨some 1, [], Text.encode "no bus"⟩
          else ⟨some 0, [], []⟩)⟩ := ⟨_, rfl⟩
  obtain ⟨good, good_eq⟩ : ∃ host : Host, host =
      ⟨fun _ => .error .notFound, fun _ _ =>
        .ok ⟨some 0, Text.encode "a.service loaded failed dead", []⟩⟩ := ⟨_, rfl⟩
  obtain ⟨stateless, sessions⟩ := histories_stateless client
  obtain ⟨⟨held, history⟩, -⟩ := sessions
    [(down, .connect client), (down, .listUnits), (good, .listUnits)] (by simp)
  obtain ⟨t, t', t'', log_eq⟩ : ∃ t t' t'', Session.exchanges none
      [(down, .connect client), (down, .listUnits), (good, .listUnits)] =
        [⟨down, .connect client, t⟩, ⟨down, .listUnits, t'⟩, ⟨good, .listUnits, t''⟩] := by
    subst client_eq down_eq good_eq
    exact ⟨_, _, _, rfl⟩
  rw [log_eq] at history
  have facts := stateless _ _ history
  have connects : Exchange.Connects client ⟨down, .connect client, t⟩ := by
    subst client_eq down_eq
    exact ⟨rfl, _, rfl, rfl⟩
  have first := (facts.connected _ (by simp)).mpr connects
  have second : t'.result = .units (.error (.commandFailed (some 1) "no bus")) := by
    refine (facts.answered ⟨down, .listUnits, t'⟩ (by simp)).trans (congrArg Answer.units ?_)
    subst client_eq down_eq
    change Systemctl.unitsOf "sh" (.ok ⟨some 1, [], Text.encode "no bus"⟩) = _
    decide +kernel
  have third : t''.result =
      .units (.ok [.ofColumns "a.service" "loaded" "failed" "dead" ""]) := by
    refine (facts.listed ⟨good, .listUnits, t''⟩ (by simp) _).mpr
      ⟨rfl, "a.service loaded failed dead", ?_, by decide +kernel⟩
    subst client_eq good_eq
    exact ⟨_, rfl, rfl, rfl, by decide +kernel⟩
  refine ⟨client, down, good, _, held, client_eq, down_eq, good_eq, log_eq.symm, history,
    (facts.managers _).mpr ⟨rfl, _, List.mem_cons_self, connects⟩, ?_⟩
  rw [List.map_cons, List.map_cons, List.map_singleton, first, second, third]

end UnitHealth
