import ChatCommands.Proofs.AgentTurns
import ChatCommands.Proofs.BodyCalls
import ChatCommands.Proofs.ConsoleCommands
import ChatCommands.Proofs.StrippedLeads
import ChatCommands.Proofs.UnbegunEvents

/-! What a line comes to at the console. Nothing but the line itself and the application's state goes
into it while no invocation is under way: `comesTo` tells the tags and the replies that it leads to,
with nothing in it of turns, slots and trays, and handling the line settles in that
(`settles_of_dispatch`). All the rest that could make a difference to later lines is as it was
(`Stands`). -/
namespace ChatCommands.ConsoleEvents
open Console ConsoleCommands CollectedReplies RegistryGrowth InvocationCourse LegalCourses
open Dispatcher LongestDescent NamedSiblings

variable {ci : Bool} {d : Dispatcher Tags} {inv : Invocation Tags} {s t : Service Tags}
  {slots : Slots} {held : Option Admission} {tags : Tags} {said : List String}

/-! ## Slots -/

/-- Nobody holds or awaits a slot of a bucket that has one. -/
structure Vacant (bucket : SlotBucket) : Prop where
  inFlight : bucket.inFlight = 0
  waiters : bucket.waiters = []
  room : 0 < bucket.max

/-- Nobody holds or awaits a slot. -/
def Idle (slots : Slots) : Prop := ∀ e ∈ slots.buckets, Vacant e.2

/-- Nobody but an invocation with an admission, if it has one, holds or awaits a slot. -/
def IdleBut (slots : Slots) : Option Admission → Prop
  | none => Idle slots
  | some admission => (slots.release admission).2 = none ∧ Idle (slots.release admission).1

theorem idle_set (idle : Idle slots) {key : SlotKey} {bucket : SlotBucket}
    (vacant : Vacant bucket) : ∀ e ∈ slots.buckets.set key bucket, Vacant e.2 := by
  intro e member
  rcases AgentTurns.mem_set member with rfl | old
  · exact vacant
  · exact idle e old

theorem bucketFor_of_idle (idle : Idle slots) (key : SlotKey) {rule : Concurrency}
    (positive : 0 < rule.number) :
    Vacant (slots.bucketFor key rule).1 ∧ Idle (slots.bucketFor key rule).2 := by
  unfold Slots.bucketFor
  split
  · rename_i found
    exact ⟨idle _ (AgentTurns.mem_of_get? found), idle⟩
  · exact ⟨⟨rfl, rfl, positive⟩, idle_set idle ⟨rfl, rfl, positive⟩⟩

/-- Where nobody holds or awaits a slot, one is free at once. -/
theorem enter_of_idle (idle : Idle slots) (key : SlotKey) {rule : Concurrency}
    (positive : 0 < rule.number) :
    ∃ admission left, slots.enter key rule = (.admitted admission, left) ∧
      IdleBut left (some admission) := by
  obtain ⟨⟨inFlight, waiters, room⟩, others⟩ := bucketFor_of_idle idle key positive
  unfold Slots.enter
  generalize slots.bucketFor key rule = found at inFlight waiters room others
  obtain ⟨bucket, slots⟩ := found
  dsimp only at inFlight waiters room others ⊢
  rw [if_pos (inFlight ▸ room)]
  refine ⟨_, _, rfl, ?_⟩
  simp only [IdleBut, Slots.release, Slots.bucket?, Table.get?_set, if_true, Option.filter_some,
    beq_self_eq_true, SlotBucket.release, waiters, SlotBucket.nextInLine, Table.set_set, inFlight]
  exact ⟨trivial, idle_set others ⟨rfl, rfl, room⟩⟩

/-! ## What lasts -/

/-- No command was disabled or given a check since it was registered. -/
def Untouched (r : Registry Tags) : Prop :=
  ∀ e ∈ r.standings, e.2.enabled = true ∧ e.2.extraChecks = []

/-- The console between two things that happen: what it knows of tags, which replies are still to be
fetched, and that everything else is as at first, but for the slot of an invocation under way. -/
structure Stands (ci : Bool) (held : Option Admission) (tags : Tags) (said : List String)
    (s : Service Tags) : Prop where
  free : Free s.tray
  tags : s.app = tags
  said : s.post.captured.map (·.content) = said
  fetched : s.post.fetched = []
  slots : IdleBut s.slots held
  orderly : Orderly ci s.registry
  roots : s.registry.root.ordered = roots
  untouched : Untouched s.registry
  modules : s.modules = [admin]

theorem Stands.played {state : Tags} {more : List String} (stands : Stands ci held tags said s)
    (ready : Ready t) (played : Played s state more t) :
    Stands ci held state (said ++ more) t where
  free := ready.free
  tags := played.state
  said := played.said.trans (by rw [stands.said])
  fetched := played.fetched.trans stands.fetched
  slots := played.slots ▸ stands.slots
  orderly := played.registry ▸ stands.orderly
  roots := played.registry ▸ stands.roots
  untouched := played.registry ▸ stands.untouched
  modules := played.modules.trans stands.modules

theorem standing_of_untouched {r : Registry Tags} (untouched : Untouched r) (serial : Nat)
    {c : Command Tags} (enabled : c.parts.enabled = true) :
    (r.standing serial c).enabled = true ∧ (r.standing serial c).extraChecks = [] := by
  unfold Registry.standing
  cases found : r.standings.get? ⟨serial, c.qualified⟩ with
  | none => exact ⟨enabled, rfl⟩
  | some standing => exact untouched _ (AgentTurns.mem_of_get? found)

theorem Stands.recordUse (stands : Stands ci held tags said s) (serial : Nat) {c : Command Tags}
    (enabled : c.parts.enabled = true) :
    Stands ci held tags said { s with registry := s.registry.recordUse serial c } :=
  { stands with
    orderly := ⟨stands.orderly.mode, stands.orderly.roots, stands.orderly.made,
      stands.orderly.serials, stands.orderly.issued⟩
    untouched := fun e member => by
      rcases AgentTurns.mem_set member with rfl | old
      · exact standing_of_untouched stands.untouched serial enabled
      · exact stands.untouched e old }

theorem Stands.releaseSlot (stands : Stands ci inv.admission tags said s) (ready : Ready s) :
    Stands ci none tags said (s.releaseSlot inv) ∧ Ready (s.releaseSlot inv) := by
  obtain ⟨ctx, target, admission⟩ := inv
  cases admission with
  | none => exact ⟨stands, ready⟩
  | some admission =>
    obtain ⟨nobody, idle⟩ := stands.slots
    have given : s.releaseSlot ⟨ctx, target, some admission⟩ =
        { s with slots := (s.slots.release admission).1 } := by
      simp only [Service.releaseSlot, Service.handOver, nobody]
    rw [given]
    exact ⟨{ stands with slots := idle }, ready.free, ready.stays, ready.silent⟩

/-- Counting an invocation against cooldowns changes nothing but them and the journal. -/
theorem acquire_eq (s : Service Tags) (span : Option Span) (c : Command Tags) (ctx : Context) :
    ∃ cooldowns journal, s.acquire span c ctx =
      ((s.acquire none c ctx).1, { s with cooldowns := cooldowns, journal := journal }) := by
  unfold Service.acquire
  generalize s.cooldowns.acquire c.qualified c.parts.cooldowns ctx s.now = counted
  obtain ⟨cooldowns, denials⟩ := counted
  dsimp only
  suffices noted : ∀ journal, ∃ later, denials.foldl
      (fun s denial => Service.note s span (Service.denialNote c.qualified denial))
      { s with cooldowns := cooldowns, journal := journal } =
        { s with cooldowns := cooldowns, journal := later } by
    obtain ⟨later, same⟩ := noted s.journal
    exact ⟨cooldowns, later, congrArg _ same⟩
  induction denials with
  | nil => exact fun journal => ⟨journal, rfl⟩
  | cons denial denials ih => exact fun journal => ih _

/-! ## Errors -/

/-- What is replied to an error. -/
def told (error : CommandError) : List String :=
  if error.isUserInput || error.isCheckFailure || error.retryAfter?.isSome then
    ["error: " ++ error.chainText]
  else []

theorem replies_onError (ctx : Context) (error : CommandError) :
    Replies 1 (onError ctx error) := by
  unfold onError
  split
  · exact replies_answer _
  · exact .note .stop

theorem play_onError (usage : Usage) (ctx : Context) (error : CommandError) (tags : Tags) :
    play usage (onError ctx error) tags = (.done, tags, told error) := by
  unfold onError told
  split <;> rfl

theorem moduleOf?_silent (stands : Stands ci held tags said s) (root : Command Tags) :
    (s.moduleOf? root).bind (·.onError) = none := by
  unfold Service.moduleOf? Service.module?
  rw [stands.modules]
  cases root.owner with
  | none => rfl
  | some name =>
    rw [Option.bind_some, List.find?_singleton]
    split <;> rfl

/-- The stages of an invocation keep the pauses of their scripts. -/
theorem carries_stage (d : Dispatcher Tags) (inv : Invocation Tags) (stage : Stage) :
    Carries d inv.runner
      (fun r => Work.ofHandling (goOn inv stage (d.nextOf inv stage) r))
      (fun pause => .handling (.staged inv stage pause)) where
  paused _ _ := rfl
  resumed _ _ := rfl

/-- So does the handler of a line that names no command. -/
theorem carries_unresolved (d : Dispatcher Tags) (ctx : Context) (error : CommandError) :
    Carries d (openRunner ctx) (fun r => Work.ofHandling (goOnUnresolved ctx error r))
      (fun pause => .handling (.unresolved ctx error pause)) where
  paused _ _ := rfl
  resumed _ _ := rfl

/-! ## What is to be shown -/

/-- What an invocation leads to once it is known whether its arguments bind. -/
def carriedOut (inv : Invocation Tags) (s : Service Tags) :
    Except CommandError Args → Tags × List String
  | .error error => (s.app, told error)
  | .ok args =>
    let used := s.registry.recordUse inv.target.root.serial inv.command
    match inv.command.parts.body with
    | some body => (play (usageFor inv.runner { s with registry := used }) (body inv.ctx args) s.app).2
    | none => (s.app, [])

/-- The arguments of an invocation that finds a slot, or why it does not come that far. -/
def bound (d : Dispatcher Tags) (inv : Invocation Tags) (s : Service Tags) :
    Except CommandError Args :=
  match d.passChecks inv s with
  | .error error => .error error
  | .ok () =>
    match (s.acquire none inv.command inv.ctx).1 with
    | some denial => .error (.onCooldown inv.name denial.rule.terms denial.wait)
    | none => Binding.bind d.converters d.quotes inv.ctx inv.name inv.command.parts.params
        inv.command.parts.ignoreExtra

/-- The tags and the replies that a line leads to. -/
def comesTo (d : Dispatcher Tags) (s : Service Tags) (line : String) : Tags × List String :=
  match splitLead? d.leads d.settings.dispatch.stripAfterLead line with
  | none => (s.app, [])
  | some (lead, text) =>
    match s.registry.resolve text with
    | .error _ => (s.app, [])
    | .ok target =>
      let inv := begunBy d s (event line) lead target
      carriedOut inv s (bound d inv s)

/-! ## The stages of an invocation -/

section
variable (hooks : d.hooks = { onError := onError }) (captures : inv.ctx.responder = .capture)
include hooks captures

/-- An error is told to the user if it is one that the user can do something about. -/
theorem settles_of_report (lacks : inv.command.parts.onError = none) (ready : Ready s)
    (stands : Stands ci none tags said s) (error : CommandError) :
    Settles d (Stands ci none tags (said ++ told error)) 1
      (Work.ofHandling (d.report inv error s)) := by
  let counted : Service Tags := { s with metrics := s.metrics.error inv.name error.code }
  have before : Stands ci none tags said counted := { stands with }
  have asked : d.report inv error s =
      goOn inv (.handler .global error) (d.nextOf inv (.handler .global error))
        ((onError inv.ctx error).run inv.runner counted) := by
    have silent : ((counted.moduleOf? inv.target.root).bind (·.onError)) = none :=
      moduleOf?_silent before inv.target.root
    simp only [report, lacks, askModule]
    rw [silent]
    simp only [askGlobal, hooks]
    rfl
  rw [asked]
  refine settles_of_run (m := 0) (carries_stage d inv (.handler .global error)) captures
    (replies_onError inv.ctx error) ⟨ready.free, ready.stays, ready.silent⟩ fun t settled played => ?_
  rw [play_onError] at played ⊢
  exact .done settled (before.played settled (before.tags ▸ played))

/-- An invocation that ends in an error gives its slot back, and tells the error. -/
theorem settles_of_failure (lacks : inv.command.parts.onError = none) (ready : Ready s)
    (stands : Stands ci inv.admission tags said s) (error : CommandError) :
    Settles d (Stands ci none tags (said ++ told error)) 1
      (Work.ofHandling (d.conclude inv (.error error) s)) := by
  obtain ⟨released, still⟩ := stands.releaseSlot ready
  let without : Invocation Tags := { inv with admission := none }
  have captured : without.ctx.responder = .capture := captures
  exact settles_of_report hooks captured lacks still released error

omit captures in
/-- So does one that ends in success, which nobody is told. -/
theorem settles_of_success (ready : Ready s) (stands : Stands ci inv.admission tags said s) :
    Settles d (Stands ci none tags said) 0 (Work.ofHandling (d.conclude inv (.ok ()) s)) := by
  obtain ⟨released, still⟩ := stands.releaseSlot ready
  have ended : d.conclude inv (.ok ()) s =
      (.finished, (s.releaseSlot inv).note (some inv.span)
        ⟨.debug, .dispatcher, "Command completed", []⟩) := by
    simp only [conclude, hooks]
    rfl
  rw [ended]
  exact .done ⟨still.free, still.stays, still.silent⟩ { released with }

/-- However its body ended, an invocation is over after it, and nothing more is replied. -/
theorem settles_of_afterBody (simple : Simple inv.command) (ready : Ready s)
    (stands : Stands ci inv.admission tags said s) (outcome : Outcome) :
    Settles d (Stands ci none tags said) 1 (Work.ofHandling (d.afterBody inv outcome s)) := by
  have counted : Stands ci inv.admission tags said (s.countCommand inv) := { stands with }
  have still : Ready (s.countCommand inv) := ⟨ready.free, ready.stays, ready.silent⟩
  have ended : d.afterBody inv outcome s = d.conclude inv
      ((bodyFault outcome).elim (.ok ()) fun fault => .error (.invoke inv.name fault))
      (s.countCommand inv) := by
    cases outcome <;> simp only [afterBody, runAfter, simple.after, runAfterGlobal, hooks] <;> rfl
  rw [ended]
  cases bodyFault outcome with
  | none => exact (settles_of_success hooks still counted).more 1
  | some fault =>
    have silent : said ++ told (.invoke inv.name fault) = said := List.append_nil said
    exact silent ▸ settles_of_failure hooks captures simple.onError still counted _

/-- The body comes to what it comes to by itself. -/
theorem settles_of_runBefore (simple : Simple inv.command) {body : Body Tags}
    (has : inv.command.parts.body = some body) (args : Args) (ready : Ready s)
    (stands : Stands ci inv.admission tags said s) :
    Settles d
      (Stands ci none (play (usageFor inv.runner s) (body inv.ctx args) tags).2.1
        (said ++ (play (usageFor inv.runner s) (body inv.ctx args) tags).2.2)) 2
      (Work.ofHandling (d.runBefore inv args s)) := by
  have begun : d.runBefore inv args s =
      goOn inv .body (d.nextOf inv .body) ((body inv.ctx args).run inv.runner s) := by
    simp only [runBefore, simple.before, runBeforeGlobal, hooks, begin, Script.done, Script.run,
      goOn, runBody, has]
    rfl
  rw [begun]
  refine settles_of_run (m := 1) (carries_stage d inv .body) captures
    (simple.replies body has inv.ctx args) ready fun t settled played => ?_
  rw [stands.tags] at played
  exact settles_of_afterBody hooks captures simple settled (stands.played settled played) _

/-- A panic of the binding ends an invocation silently, as an error that nobody is told would. -/
theorem settles_of_binding (simple : Simple inv.command) (ready : Ready s)
    (stands : Stands ci inv.admission tags said s) :
    let came := carriedOut inv s (Binding.bind d.converters d.quotes inv.ctx inv.name
      inv.command.parts.params inv.command.parts.ignoreExtra)
    Settles d (Stands ci none came.1 (said ++ came.2)) 2
      (Work.ofHandling (d.bindArguments inv s)) := by
  intro came
  obtain rfl := stands.tags
  cases binds : Binding.bind d.converters d.quotes inv.ctx inv.name inv.command.parts.params
      inv.command.parts.ignoreExtra with
  | error error =>
    have coming : came = (s.app, told error) := by simp only [came, binds, carriedOut]
    rw [coming]
    by_cases panic : error = .panicked
    · subst panic
      obtain ⟨released, still⟩ := stands.releaseSlot ready
      have ended : d.bindArguments inv s = (.finished, s.releaseSlot inv) := by
        simp only [bindArguments, binds]
      rw [ended]
      exact .done still ((List.append_nil said).symm ▸ released)
    · have ended : d.bindArguments inv s = d.conclude inv (.error error) s := by
        cases error <;> simp_all only [bindArguments, not_true]
      rw [ended]
      exact (settles_of_failure hooks captures simple.onError ready stands error).more 1
  | ok args =>
    let used : Service Tags :=
      { s with registry := s.registry.recordUse inv.target.root.serial inv.command }
    have counted : Stands ci inv.admission s.app said used := stands.recordUse _ simple.enabled
    have still : Ready used := ⟨ready.free, ready.stays, ready.silent⟩
    cases has : inv.command.parts.body with
    | none =>
      have coming : came = (s.app, []) := by simp only [came, binds, carriedOut, has]
      have ended : d.bindArguments inv s =
          d.conclude inv (.error (.commandNotFound inv.name)) used := by
        simp only [bindArguments, binds, has, Option.isNone_none, if_true]
        rfl
      rw [coming, ended]
      exact (settles_of_failure hooks captures simple.onError still counted
        (.commandNotFound inv.name)).more 1
    | some body =>
      have coming : came = (play (usageFor inv.runner used) (body inv.ctx args) s.app).2 := by
        simp only [came, binds, carriedOut, has]
        rfl
      have ended : d.bindArguments inv s = d.runBefore inv args used := by
        simp only [bindArguments, binds, has, Option.isNone_some, Bool.false_eq_true, if_false]
        rfl
      rw [coming, ended]
      exact settles_of_runBefore hooks captures simple has args still counted

/-- A slot is free for every invocation. -/
theorem settles_of_enterSlot (simple : Simple inv.command) (ready : Ready s)
    (without : inv.admission = none) (stands : Stands ci none tags said s) :
    let came := carriedOut inv s (Binding.bind d.converters d.quotes inv.ctx inv.name
      inv.command.parts.params inv.command.parts.ignoreExtra)
    Settles d (Stands ci none came.1 (said ++ came.2)) 2
      (Work.ofHandling (d.enterSlot inv s)) := by
  unfold enterSlot
  cases limited : inv.command.parts.concurrency with
  | none => exact settles_of_binding hooks captures simple ready (without ▸ stands)
  | some rule =>
    obtain ⟨admission, left, enters, onlyThis⟩ :=
      enter_of_idle stands.slots (Slots.keyFor inv.name rule inv.ctx) (simple.slots rule limited)
    simp only [enters]
    have admitted : Stands ci (some admission) tags said { s with slots := left } :=
      { stands with slots := onlyThis }
    have still : Ready { s with slots := left } := ⟨ready.free, ready.stays, ready.silent⟩
    let holder : Invocation Tags := { inv with admission := some admission }
    have captured : holder.ctx.responder = .capture := captures
    exact settles_of_binding hooks captured simple still admitted

theorem settles_of_invoke (simple : Simple inv.command) (ready : Ready s)
    (without : inv.admission = none) (stands : Stands ci none tags said s) :
    let came := carriedOut inv s (bound d inv s)
    Settles d (Stands ci none came.1 (said ++ came.2)) 2
      (Work.ofHandling (d.invoke inv s)) := by
  intro came
  obtain rfl := stands.tags
  unfold invoke
  cases checked : d.passChecks inv s with
  | error error =>
    have coming : came = (s.app, told error) := by simp only [came, bound, checked, carriedOut]
    rw [coming]
    exact (settles_of_failure hooks captures simple.onError ready (without ▸ stands) error).more 1
  | ok _ =>
    obtain ⟨cooldowns, journal, counts⟩ := acquire_eq s (some inv.span) inv.command inv.ctx
    let counted : Service Tags := { s with cooldowns := cooldowns, journal := journal }
    have goesOn : begin inv .onCommand (d.hooks.onCommand inv.ctx) (d.afterOnCommand inv) s =
        d.passCooldowns inv s := by
      simp only [hooks]
      rfl
    dsimp only
    rw [goesOn, passCooldowns, counts]
    cases denied : (s.acquire none inv.command inv.ctx).1 with
    | some denial =>
      have coming : came = (s.app, told (.onCooldown inv.name denial.rule.terms denial.wait)) := by
        simp only [came, bound, checked, denied, carriedOut]
      let refused : Service Tags := { counted with metrics := counted.metrics.denial inv.name }
      have standing : Stands ci inv.admission s.app said refused := without ▸ { stands with }
      have still : Ready refused := ⟨ready.free, ready.stays, ready.silent⟩
      rw [coming]
      exact (settles_of_failure hooks captures simple.onError still standing
        (.onCooldown inv.name denial.rule.terms denial.wait)).more 1
    | none =>
      have coming : came = carriedOut inv counted (Binding.bind d.converters d.quotes inv.ctx
          inv.name inv.command.parts.params inv.command.parts.ignoreExtra) := by
        simp only [came, bound, checked, denied]
        rfl
      rw [coming]
      exact settles_of_enterSlot hooks captures simple ⟨ready.free, ready.stays, ready.silent⟩
        without { stands with }

end

/-- A line that names no command is not answered, whether it is reported or not. -/
theorem settles_of_refusal (hooks : d.hooks = { onError := onError }) (ready : Ready s)
    (stands : Stands ci none tags said s) {ctx : Context} (captures : ctx.responder = .capture)
    {error : CommandError} (silent : told error = []) :
    Settles d (Stands ci none tags said) 2 (Work.ofHandling (d.refuseLine ctx error s)) := by
  have refused : Stands ci none tags said (UnbegunEvents.refused ctx error s) := { stands with }
  have still : Ready (UnbegunEvents.refused ctx error s) :=
    ⟨ready.free, ready.stays, ready.silent⟩
  rw [UnbegunEvents.refuseLine_eq, hooks]
  split
  · refine settles_of_run (m := 1) (carries_unresolved d ctx error) captures
      (replies_onError ctx error) still fun t settled played => ?_
    rw [play_onError] at played ⊢
    have stood := refused.played settled (refused.tags ▸ played)
    rw [silent, List.append_nil] at stood
    exact .done settled stood
  · exact .done still refused

/-- A line comes to what it comes to, in a few turns, and the console stands as before. -/
theorem settles_of_dispatch (hooks : d.hooks = { onError := onError }) (ready : Ready s)
    (stands : Stands ci none tags said s) (line : String) :
    Settles d (Stands ci none (comesTo d s line).1 (said ++ (comesTo d s line).2)) 2
      (Work.ofHandling (d.dispatch (event line) s)) := by
  obtain rfl := stands.tags
  have heard : (d.settings.dispatch.ignoreBots && (event line).author.bot) = false :=
    Bool.and_false _
  have begun : Stands ci none s.app said (met s) := { stands with }
  have still : Ready (met s) := ⟨ready.free, ready.stays, ready.silent⟩
  unfold comesTo
  cases addressed : splitLead? d.leads d.settings.dispatch.stripAfterLead line with
  | none =>
    have ignored : d.dispatch (event line) s = (.finished, { s with metrics := s.metrics.event }) := by
      simp only [dispatch, heard, Bool.false_eq_true, if_false]
      rw [show (event line).content = line from rfl, addressed]
    rw [ignored]
    exact .done ⟨ready.free, ready.stays, ready.silent⟩
      ((List.append_nil said).symm ▸ { stands with })
  | some found =>
    obtain ⟨lead, text⟩ := found
    dsimp only
    cases resolved : s.registry.resolve text with
    | error error =>
      obtain ⟨_, _, _, _, -, -, -, -, rfl⟩ :=
        (LongestDescent.resolve_eq_error_iff stands.orderly text error).1 resolved
      rw [UnbegunEvents.dispatch_of_unresolved ⟨heard, addressed, resolved⟩, List.append_nil]
      exact settles_of_refusal hooks still begun rfl rfl
    | ok target =>
      let inv := begunBy d s (event line) lead target
      have captures : inv.ctx.responder = .capture := rfl
      have simple : Simple inv.command :=
        simple_of_runnable (mem_runnable_of_resolve stands.orderly stands.roots resolved)
      rw [dispatch_of_resolved heard addressed resolved]
      exact settles_of_invoke hooks captures simple still rfl begun

/-! ## Commands that anybody may use at any time -/

/-- Whoever uses a command that is not of the module passes all checks. -/
theorem passChecks_of_ownerless (plain : d.checks = []) (stands : Stands ci held tags said s)
    (member : (inv.target.parents, inv.target.command) ∈ runnable)
    (ownerless : inv.target.root.owner = none) : d.passChecks inv s = .ok () := by
  have fine (c : Command Tags) (among : c ∈ inv.target.parents ++ [inv.target.command]) :=
    standing_of_untouched stands.untouched inv.target.root.serial (open_of_runnable member c among).1
  have unchecked : ∀ check, check ∉ d.checksFor s inv.target := by
    intro check among
    rw [checksFor, plain, Service.moduleOf?, ownerless, List.nil_append] at among
    obtain ⟨c, inPath, asked⟩ := List.mem_flatMap.1 among
    rw [Registry.checksOf, (open_of_runnable member c inPath).2, (fine c inPath).2] at asked
    exact absurd asked List.not_mem_nil
  exact passChecks_eq_ok_iff.2
    ⟨fun c among => (fine c among).1, fun check among => absurd among (unchecked check)⟩

/-- Nothing but its arguments can keep such a command, if it has no cooldowns, from its body. -/
theorem comesTo_of_resolved (plain : d.checks = []) (stands : Stands ci held tags said s)
    {line lead text : String} {target : Resolved Tags}
    (addressed : splitLead? d.leads d.settings.dispatch.stripAfterLead line = some (lead, text))
    (resolved : s.registry.resolve text = .ok target) (ownerless : target.root.owner = none)
    (uncooled : target.command.parts.cooldowns = []) :
    comesTo d s line =
      carriedOut (begunBy d s (event line) lead target) s
        (Binding.bind d.converters d.quotes (begunBy d s (event line) lead target).ctx
          target.command.qualified target.command.parts.params
          target.command.parts.ignoreExtra) := by
  have passes : d.passChecks (begunBy d s (event line) lead target) s = .ok () :=
    passChecks_of_ownerless plain stands
      (mem_runnable_of_resolve stands.orderly stands.roots resolved) ownerless
  simp only [comesTo, addressed, resolved, bound, passes]
  rw [show (begunBy d s (event line) lead target).command = target.command from rfl,
    BodyCalls.acquire_of_unruled uncooled]
  rfl

/-! ## Lines with the standard mark -/

/-- A line names a command by words behind the mark, and goes on with `rest`. -/
def Names (line : String) (words : List String) (rest : List Char) : Prop :=
  ∃ text, line.toList = '!' :: text ∧ (∀ ch ∈ text.head?, Text.isBlank ch = false) ∧
    Begins text words rest

/-- With the standard settings the lines for the console are those with the mark in front, and
nothing between it and the text. -/
theorem addressed_iff {line lead text : String} :
    splitLead? (dispatcherOf {}).leads (dispatcherOf {}).settings.dispatch.stripAfterLead line =
        some (lead, text) ↔
      lead = "!" ∧ line.toList = '!' :: text.toList ∧
        ∀ ch ∈ text.toList.head?, Text.isBlank ch = false := by
  refine (StrippedLeads.split?_eq_some_iff (dispatcherOf {})).trans ⟨?_, ?_⟩
  · rintro ⟨⟨member, -, -⟩, ⟨gap, -, strict, shape⟩, solid⟩
    obtain rfl := List.mem_singleton.1 member
    rw [strict rfl] at shape
    exact ⟨rfl, shape, solid⟩
  · rintro ⟨rfl, shape, solid⟩
    refine ⟨⟨List.mem_singleton_self _, ⟨text.toList, shape.symm⟩, fun other member _ => ?_⟩,
      ⟨[], List.forall_mem_nil _, fun _ => rfl, shape⟩, solid⟩
    rw [List.mem_singleton.1 member]

theorem named_iff_of_single {c : Command Tags} {name word : String} (single : c.names = [name]) :
    Named false word c ↔ name = word := by
  simp [Named, Same, single]

/-- A line that names a command that does something is resolved to it. -/
theorem found_of_names (stands : Stands false held tags said s) {parents : List (Command Tags)}
    {c : Command Tags} (member : (parents, c) ∈ runnable) {words : List String} {word : String}
    (named : List.Forall₂ (Named false) (words ++ [word]) (parents ++ [c])) {line : String}
    {rest : List Char} (names : Names line (words ++ [word]) rest) :
    ∃ text, splitLead? (dispatcherOf {}).leads
        (dispatcherOf {}).settings.dispatch.stripAfterLead line = some ("!", text) ∧
      s.registry.resolve text = .ok ⟨c, parents, word, words, String.ofList rest⟩ := by
  obtain ⟨text, shape, solid, begins⟩ := names
  obtain ⟨start, chain, leaf⟩ := path_of_runnable member
  refine ⟨String.ofList text, addressed_iff.2 ⟨rfl, ?_, ?_⟩,
    (resolve_eq_ok_iff stands.orderly _ _).2 ⟨⟨?_, chain, named, ?_⟩, .inl leaf⟩⟩
  · rwa [String.toList_ofList]
  · rwa [String.toList_ofList]
  · rwa [stands.roots]
  · rwa [String.toList_ofList, String.toList_ofList]

end ChatCommands.ConsoleEvents
