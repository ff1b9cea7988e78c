import AlbListener.Proofs.Command.Plan
import AlbListener.Proofs.Reconciler.Sent
import AlbListener.Proofs.Request.Failures

/-!
# A plan and what comes of it

`plan` and `apply` work out the desired listener, describe the live one and compare the two, each
in its own order. On the same fleet, with no failure pending, a plan tells what `apply` will send
and how it will end; but it has to draw a drift before it can tell of it, and a drift that cannot
be drawn is brought about all the same.

Results:
* `applied_eq`: what is sent by `apply` is what the pass sends.
* `predicts_of_loads`: a plan whose request is loaded tells what is sent.
* `plan_predicts_apply`: so does every plan.
-/

namespace AlbListener

/-- A reply with something printed before it. -/
def Reply.after (printed : String) (reply : Reply) : Reply :=
  { reply with output := printed ++ reply.output }

namespace Command

open Reconciler (Course)
open View (Tabulates)

variable {world : World Fleet} {file : File} {watch : Bool} {fleet : Fleet}
variable {settings : Settings} {request : Request} {config : ListenerConfig} {live : Listener}
variable {live? : Option Listener} {drifts : List Drift}

/-! ## What is replied to `apply` -/

/-- The reconciler of `apply`, of whose calls one sort may be answered too late. -/
def reconciler (world : World Fleet) (watch : Bool) (late? : Option Call) : Reconciler Fleet :=
  { cloud := world.cloud.late late?, rules := .unmanaged, announces := watch, now := world.now }

/-- The report of a pass that failed. -/
def passWords (settings : Settings) (failure : Failure) : Option String :=
  (reconcileWords failure).or ((providerWords failure).or
    (timeoutWords settings.pass.timeout failure))

/-- What is replied after a pass, behind its events. -/
def endReply (settings : Settings) : Except Stop Result → Reply
  | .ok result =>
    ⟨"Listener: " ++ result.listener.arn.display ++ "\nResult: " ++ result.type.name ++ "\n", .done⟩
  | .error reason => ⟨"", Session.stopped (passWords settings) reason⟩

/-- What is shown of the events of a pass. -/
def shownOf (watch : Bool) (timing : Timing) (trace : List Effect) : String :=
  if watch then
    (Printer.ofEvents timing.turns (trace.filterMap Effect.published)).output
  else ""

/-- How a pass ends that is waited for. -/
def endOf (timing : Timing) (settings : Settings) (outcome : Outcome Fleet Result) :
    Except Stop Result :=
  awaited (timing.late? settings.pass.timeout) outcome.trace outcome.result

/-- What is replied after a pass. -/
def passReply (settings : Settings) (watch : Bool) (timing : Timing)
    (outcome : Outcome Fleet Result) : Reply :=
  (endReply settings (endOf timing settings outcome)).after (shownOf watch timing outcome.trace)

/-- The pass over the request that was loaded. -/
def passOf (world : World Fleet) (watch : Bool) (timing : Timing) (settings : Settings)
    (request : Request) : Run Fleet Result :=
  (reconciler world watch (timing.late? settings.pass.timeout)).converge request

/-- What `apply` does with the request that was loaded. -/
def passing (world : World Fleet) (watch : Bool) (timing : Timing) (settings : Settings)
    (request : Request) : Session Fleet Reply :=
  let late? := timing.late? settings.pass.timeout
  liftM (passOf world watch timing settings request).observe >>= fun observed =>
    liftM (showEvents watch timing.turns (observed.2.filterMap Effect.published) :
      Run Fleet String) >>= fun events =>
      Session.settle (passWords settings) events (awaited late? observed.2 observed.1) >>=
        fun result => pure ⟨events ++ "Listener: " ++ result.listener.arn.display
          ++ "\nResult: " ++ result.type.name ++ "\n", .done⟩

theorem bringAbout_eq (world : World Fleet) (file : File) (watch : Bool) (timing : Timing) :
    bringAbout world file watch timing =
      loadSettings world >>= fun settings => loadRequest settings file >>=
        passing world watch timing settings := rfl

theorem ending_showEvents (watch : Bool) (timing : Timing) (trace : List Effect) (fleet : Fleet) :
    (showEvents watch timing.turns (trace.filterMap Effect.published)).ending fleet =
      (.ok (shownOf watch timing trace), fleet) := by
  cases watch <;> rfl

/-- Showing events leaves nothing but records. -/
theorem hides_showEvents {γ : Type} {pick : Effect → Option γ}
    (hlog : ∀ entry, pick (.log entry) = none) (watch : Bool) (turns : ℕ → ℕ)
    (events : List Event) : (showEvents watch turns events : Run Fleet String).Hides pick := by
  have hrecord (entries : List LogRecord) : (Run.record entries : Run Fleet Unit).Hides pick := by
    intro fleet
    simp [Run.seen, Run.record, List.filterMap_map, hlog]
  cases watch with
  | false => exact Run.hides_pure _
  | true => exact (hrecord _).bind fun _ => Run.hides_pure _

section

variable (world : World Fleet) (watch : Bool) (timing : Timing) (settings : Settings)
  (request : Request) (fleet : Fleet)

theorem ending_observe_pass :
    (liftM (passOf world watch timing settings request).observe : Session Fleet _).ending fleet =
      (.ok (.ok ((passOf world watch timing settings request fleet).result,
        (passOf world watch timing settings request fleet).trace)),
        (passOf world watch timing settings request fleet).state) :=
  Session.ending_lift rfl

/-- The pass of `apply` leaves the state that it leaves by itself, and its reply tells how it
    ended. -/
theorem ending_passing :
    Session.replyOf ((passing world watch timing settings request).ending fleet).1 =
        passReply settings watch timing (passOf world watch timing settings request fleet) ∧
      ((passing world watch timing settings request).ending fleet).2 =
        (passOf world watch timing settings request fleet).state := by
  rw [passing, Session.ending_bind_of_ok _ (ending_observe_pass ..),
    Session.ending_bind_of_ok _ (Session.ending_lift (ending_showEvents watch timing _ _)),
    passReply]
  rw [endOf]
  rcases awaited _ _ (passOf world watch timing settings request fleet).result with reason | result
  · rw [Session.settle_error, endReply, Reply.after, String.append_empty]
    exact ⟨rfl, rfl⟩
  · simp only [endReply, Reply.after, String.append_assoc]
    exact ⟨rfl, rfl⟩

/-- What is seen of it is what is seen of the pass, if nothing is of its printer. -/
theorem seen_passing {γ : Type} {pick : Effect → Option γ}
    (hshow : (showEvents watch timing.turns ((passOf world watch timing settings request
      fleet).trace.filterMap Effect.published) : Run Fleet String).Hides pick) :
    (passing world watch timing settings request).seen pick fleet =
      (passOf world watch timing settings request).seen pick fleet := by
  have hobserve : (liftM (passOf world watch timing settings request).observe :
      Session Fleet _).seen pick fleet = (passOf world watch timing settings request).seen pick
        fleet := Session.seen_lift _ fleet
  have hcalm : (showEvents watch timing.turns ((passOf world watch timing settings request
      fleet).trace.filterMap Effect.published) : Run Fleet String).Calm pick :=
    ⟨fun s => congrArg Prod.snd (ending_showEvents watch timing _ s), hshow⟩
  rw [passing, Session.seen_bind_of_ok _ (ending_observe_pass ..), hobserve]
  refine (congrArg _ (Session.Calm.seen_eq ?_ _)).trans (List.append_nil _)
  exact (Session.calm_lift hcalm).bind fun _ => (Session.calm_settle _ _ _).bind fun _ =>
    Session.calm_pure _

end

/-- What is replied to `apply`. -/
def applied (world : World Fleet) (file : File) (watch : Bool) (fleet : Fleet) : Reply :=
  Session.replyOf ((bringAbout world file watch).ending fleet).1

/-- What is sent by `apply` is what the pass sends, and the reply tells how the pass ended. -/
theorem applied_eq (h : Loads world file fleet settings request) (watch : Bool) :
    let pass := (reconciler world watch none).converge request
    applied world file watch fleet = passReply settings watch {} (pass fleet) ∧
      (bringAbout world file watch).seen Effect.change fleet = pass.sent fleet := by
  intro pass
  rw [applied, bringAbout_eq]
  constructor
  · rw [ending_loaded h]
    exact (ending_passing world watch {} settings request fleet).1
  · rw [seen_loaded (fun _ => rfl) h]
    exact seen_passing world watch {} settings request fleet
      (hides_showEvents (fun _ => rfl) _ _ _)

/-- What stops the working out of a desired listener is reported alike by `plan` and `apply`. -/
theorem stopped_of_build (ht : request.Typed) {failure : Failure}
    (hb : request.build = .error failure) :
    Session.stopped (passWords settings) (.failed failure) =
      Session.stopped reconcileWords (.failed failure) := by
  have hcases := Request.resolveActions_cases ht.annotations ht.backend .standard
  dsimp only at hcases
  obtain ⟨action, hok⟩ | ⟨reason, herror, -⟩ | ⟨f, hf⟩ := hcases
  · obtain ⟨config, hconfig⟩ := Request.build_of_actions ht.annotations hok
    cases hconfig.symm.trans hb
  · cases (Request.build_of_error ht.annotations herror).symm.trans hb
    rfl
  · cases (Request.build_of_error ht.annotations (Request.resolveActions_of_escapes hf)).symm.trans
      hb
    rw [Request.inStage_of_escapes hf]
    rcases hf.fault_or_runtime with ⟨_, rfl⟩ | ⟨_, rfl⟩ <;> rfl

/-! ## The agreement -/

/-- The reply to `apply` that ends with a result. -/
def Reports (type : EventType) (reply : Reply) : Prop :=
  ∃ head, reply = ⟨head ++ "\nResult: " ++ type.name ++ "\n", .done⟩

theorem reports_endReply (printed : String) (settings : Settings) (result : Result) :
    Reports result.type ((endReply settings (.ok result)).after printed) := by
  refine ⟨printed ++ "Listener: " ++ result.listener.arn.display, ?_⟩
  simp only [endReply, Reply.after, String.append_assoc]

/-- The live listener is compared with the desired one of a request. -/
structure Compares (request : Request) (live? : Option Listener) (config : ListenerConfig)
    (live : Listener) (drifts : List Drift) : Prop where
  built : request.build = .ok config
  found : live? = some live
  drifts : live.drifts config = .ok drifts

/-- There is one comparison at most. -/
theorem Compares.unique {config' : ListenerConfig} {live' : Listener} {drifts' : List Drift}
    (h : Compares request live? config live drifts)
    (h' : Compares request live? config' live' drifts') :
    config = config' ∧ live = live' ∧ drifts = drifts' := by
  cases h.built.symm.trans h'.built
  cases h.found.symm.trans h'.found
  cases h.drifts.symm.trans h'.drifts
  exact ⟨rfl, rfl, rfl⟩

/-- A plan tells what is sent: a create call exactly if it announces one, nothing that changes a
    listener exactly if it finds the listener up to date, and a modify call for the listener that it
    names exactly if it draws a drift, provided that the drift can be drawn. Whenever it draws one,
    be it with a row less, the listener is modified. It is refused exactly if `apply` is, for the
    same reason and before anything was sent. -/
structure Predicts (request : Request) (live? : Option Listener) (planned applied : Reply)
    (sent : List (Call × List (String × Json))) : Prop where
  creates : (∃ config, planned = createNotice request config) ↔
    ∃ config, request.build = .ok config ∧ Reports .created applied ∧
      sent = [(.create, ("LoadBalancerArn", request.loadBalancerArn) :: config.toApi)]
  keeps : (∃ live, planned = currentNotice live) ↔ Reports .unchanged applied ∧ sent = []
  modifies : (∃ config live drifts table, Compares request live? config live drifts ∧
      Tabulates drifts table ∧ planned = driftNotice live table) ↔
    ∃ config live drifts, Compares request live? config live drifts ∧
      (∃ table, Tabulates drifts table) ∧
      sent = [(.modify, ("ListenerArn", live.arn) :: config.toApi)]
  draws : (∃ live table, planned = driftNotice live table) →
    ∃ config live drifts, Compares request live? config live drifts ∧
      sent = [(.modify, ("ListenerArn", live.arn) :: config.toApi)]
  fails : ∀ message, planned.ending = .refused message ↔
    applied.ending = .refused message ∧ sent = []

namespace Predicts

variable {reply reply' : Reply} {sent : List (Call × List (String × Json))}

/-- Neither command does anything, and both end the same way. -/
theorem of_stopped (hdone : reply.ending ≠ .done) (hsame : reply'.ending = reply.ending) :
    Predicts request live? reply reply' [] where
  creates := by
    refine iff_of_false ?_ ?_
    · rintro ⟨config, rfl⟩
      exact hdone rfl
    · rintro ⟨_, _, _, ⟨⟩⟩
  keeps := by
    refine iff_of_false ?_ ?_
    · rintro ⟨live, rfl⟩
      exact hdone rfl
    · rintro ⟨⟨head, rfl⟩, -⟩
      exact hdone hsame.symm
  modifies := by
    refine iff_of_false ?_ ?_
    · rintro ⟨_, live, _, table, _, _, rfl⟩
      exact hdone rfl
    · rintro ⟨_, _, _, _, _, ⟨⟩⟩
  draws := by
    rintro ⟨live, table, rfl⟩
    exact absurd rfl hdone
  fails message := by
    rw [hsame]
    exact ⟨fun h => ⟨h, rfl⟩, And.left⟩

theorem of_created (hb : request.build = .ok config) (h : Reports .created reply') :
    Predicts request live? (createNotice request config) reply'
      [(.create, ("LoadBalancerArn", request.loadBalancerArn) :: config.toApi)] where
  creates := ⟨fun _ => ⟨config, hb, h, rfl⟩, fun _ => ⟨config, rfl⟩⟩
  keeps := by
    refine iff_of_false ?_ ?_
    · rintro ⟨live, hsame⟩
      exact createNotice_ne_currentNotice hsame
    · rintro ⟨-, ⟨⟩⟩
  modifies := by
    refine iff_of_false ?_ ?_
    · rintro ⟨_, live, _, table, _, _, hsame⟩
      exact createNotice_ne_driftNotice table hsame
    · rintro ⟨_, _, _, _, _, ⟨⟩⟩
  draws := fun ⟨_, table, hsame⟩ => absurd hsame (createNotice_ne_driftNotice table)
  fails message := by
    refine iff_of_false ?_ ?_
    · rintro ⟨⟩
    · rintro ⟨-, ⟨⟩⟩

theorem of_kept (h : Reports .unchanged reply') :
    Predicts request live? (currentNotice live) reply' [] where
  creates := by
    refine iff_of_false ?_ ?_
    · rintro ⟨config, hsame⟩
      exact createNotice_ne_currentNotice hsame.symm
    · rintro ⟨_, _, _, ⟨⟩⟩
  keeps := ⟨fun _ => ⟨h, rfl⟩, fun _ => ⟨live, rfl⟩⟩
  modifies := by
    refine iff_of_false ?_ ?_
    · rintro ⟨_, live, _, table, _, _, hsame⟩
      exact currentNotice_ne_driftNotice table hsame
    · rintro ⟨_, _, _, _, _, ⟨⟩⟩
  draws := fun ⟨_, table, hsame⟩ => absurd hsame (currentNotice_ne_driftNotice table)
  fails message := by
    obtain ⟨head, rfl⟩ := h
    refine iff_of_false ?_ ?_
    · rintro ⟨⟩
    · rintro ⟨⟨⟩, -⟩

/-- A listener that has drifted is modified, whether or not the drift can be drawn. -/
theorem of_modified (hcompares : Compares request live? config live drifts)
    (h : (∃ columns table, View.driftColumns drifts = .ok columns ∧
        Table.grid columns = .ok table ∧ reply = driftNotice live table) ∨
      ((∀ columns table, View.driftColumns drifts = .ok columns →
        Table.grid columns ≠ .ok table) ∧ ∃ output reason, reply = ⟨output, .stopped reason⟩)) :
    Predicts request live? reply reply' [(.modify, ("ListenerArn", live.arn) :: config.toApi)] where
  creates := by
    refine iff_of_false ?_ ?_
    · rintro ⟨config, hsame⟩
      obtain ⟨_, table, -, -, rfl⟩ | ⟨-, _, _, rfl⟩ := h
      · exact createNotice_ne_driftNotice table hsame.symm
      · cases hsame
    · rintro ⟨_, _, _, ⟨⟩⟩
  keeps := by
    refine iff_of_false ?_ ?_
    · rintro ⟨live, hsame⟩
      obtain ⟨_, table, -, -, rfl⟩ | ⟨-, _, _, rfl⟩ := h
      · exact currentNotice_ne_driftNotice table hsame.symm
      · cases hsame
    · rintro ⟨-, ⟨⟩⟩
  modifies := by
    constructor
    · rintro ⟨_, _, _, table, hother, htable, -⟩
      obtain ⟨rfl, rfl, rfl⟩ := hcompares.unique hother
      exact ⟨_, _, _, hcompares, ⟨table, htable⟩, rfl⟩
    · rintro ⟨_, _, _, hother, ⟨table, htable⟩, -⟩
      obtain ⟨rfl, rfl, rfl⟩ := hcompares.unique hother
      refine ⟨_, _, _, table, hcompares, htable, ?_⟩
      obtain ⟨observed, desired, hcolumns, -, hgrid⟩ := htable
      obtain ⟨columns, table', hcolumns', hgrid', rfl⟩ | ⟨hnone, -⟩ := h
      · cases hcolumns'.symm.trans hcolumns
        cases hgrid'.symm.trans hgrid
        rfl
      · exact absurd hgrid (hnone _ _ hcolumns)
  draws _ := ⟨_, _, _, hcompares, rfl⟩
  fails message := by
    refine iff_of_false ?_ ?_
    · intro hrefused
      obtain ⟨_, table, -, -, rfl⟩ | ⟨-, _, _, rfl⟩ := h
      · cases hrefused
      · cases hrefused
    · rintro ⟨-, ⟨⟩⟩

end Predicts

/-- Once its request is loaded and the live listener described, a plan tells what is sent. -/
theorem predicts_of_loads (hc : world.cloud = Fleet.cloud) (hready : fleet.Ready)
    (h : Loads world file fleet settings request)
    (hdescribe : (Fleet.cloud.describe request.loadBalancerArn request.port.port fleet).result =
      .ok live?) :
    Predicts request live? (planned world file fleet) (applied world file watch fleet)
      ((bringAbout world file watch).seen Effect.change fleet) := by
  have ht : request.Typed := typed_of_loadRequest (Prod.ext h.loaded rfl)
  have hdescribed : (world.cloud.describe request.loadBalancerArn request.port.port).ending fleet =
      (.ok live?, fleet) := by
    rw [hc]
    exact Prod.ext hdescribe (hready.describe _ _).1
  have hcourse : Course request live? _ _ := Reconciler.course_of_converge
    (r := reconciler world watch none) hc rfl hready ht hdescribe
  obtain ⟨happlied, hsent⟩ := applied_eq h watch
  have hreply : passReply settings watch {} ((reconciler world watch none).converge request fleet) =
      (endReply settings ((reconciler world watch none).converge request fleet).result).after
        (shownOf watch {} ((reconciler world watch none).converge request fleet).trace) :=
    congrArg (fun result => (endReply settings result).after _) (awaited_none _ _)
  rw [happlied, hsent, hreply]
  generalize shownOf watch {} _ = shown
  generalize ((reconciler world watch none).converge request fleet).result = result at hcourse ⊢
  generalize ((reconciler world watch none).converge request).sent fleet = sent at hcourse ⊢
  cases hcourse with
  | @unbuilt failure hb =>
    have hdone := Session.stopped_ne_done reconcileWords (.failed failure)
    rw [planned_unbuilt h hb]
    exact .of_stopped hdone (stopped_of_build ht hb)
  | creates hb hlive =>
    subst hlive
    rw [planned_built h hb hdescribed]
    exact .of_created hb (reports_endReply shown settings _)
  | breaks hb hlive hd =>
    subst hlive
    rw [planned_built h hb hdescribed, show Session.replyOf _ = _ from forecastReply_breaks hd]
    exact .of_stopped nofun rfl
  | keeps hb hlive hd =>
    subst hlive
    rw [planned_built h hb hdescribed, show Session.replyOf _ = _ from forecastReply_keeps hd]
    exact .of_kept (reports_endReply shown settings _)
  | modifies hb hlive hd hne =>
    subst hlive
    rw [planned_built h hb hdescribed]
    exact .of_modified ⟨hb, rfl, hd⟩ (forecastReply_drifts hd hne)

/-- A plan tells what `apply` sends and how it ends, if both are carried out on the same ready
    fleet. Without a request they reply the same, and nothing is sent. -/
theorem plan_predicts_apply (world : World Fleet) (file : File) (watch : Bool) (fleet : Fleet)
    (hc : world.cloud = Fleet.cloud) (hready : fleet.Ready) :
    let plan := (perform world file (.plan file.name)).reply
    let apply := (perform world file (.apply file.name watch)).reply
    (plan fleet).result = .ok (planned world file fleet) ∧
    (apply fleet).result = .ok (applied world file watch fleet) ∧
    ((∀ settings request, ¬Loads world file fleet settings request) →
      applied world file watch fleet = planned world file fleet ∧ apply.sent fleet = []) ∧
    ∀ settings request live?, Loads world file fleet settings request →
      (Fleet.cloud.describe request.loadBalancerArn request.port.port fleet).result = .ok live? →
      Predicts request live? (planned world file fleet) (applied world file watch fleet)
        (apply.sent fleet) := by
  intro plan apply
  have hsent : apply.sent fleet = (bringAbout world file watch).seen Effect.change fleet :=
    Session.seen_reply _ fleet
  rw [hsent]
  refine ⟨congrArg Prod.fst (Session.ending_reply _ fleet),
    congrArg Prod.fst (Session.ending_reply _ fleet), fun hnone => ?_,
    fun settings request live? h hdescribe => predicts_of_loads hc hready h hdescribe⟩
  have hlog : ∀ entry, Effect.change (.log entry) = none := fun _ => rfl
  obtain ⟨early, hearly⟩ := ending_unloaded hlog hnone
  constructor
  · rw [applied, planned, bringAbout_eq, showDrift_eq, (hearly _).1, (hearly _).1]
  · rw [bringAbout_eq]
    exact (hearly _).2

/-! ## On a fleet -/

/-- A fleet and an environment without settings. -/
def plainWorld : World Fleet where
  cloud := Fleet.cloud
  find := fun _ => .nothing
  environment := []
  now := ""

theorem ready_ofListeners (listeners : List Json) (pageSize : ℕ) :
    (Fleet.ofListeners listeners pageSize).Ready :=
  ⟨⟨rfl, rfl⟩, rfl⟩

/-- In an empty fleet, the listener that a plan announces is created. -/
theorem plan_predicts_apply_bare :
    let fleet := Fleet.ofListeners [] 0
    plainWorld.cloud = Fleet.cloud ∧ fleet.Ready ∧
    (∃ settings, Loads plainWorld bareFile fleet settings Request.bare) ∧
    planned plainWorld bareFile fleet = createNotice Request.bare Request.bareConfig ∧
    Reports .created (applied plainWorld bareFile false fleet) ∧
    (perform plainWorld bareFile (.apply bareFile.name false)).reply.sent fleet =
      [(.create, ("LoadBalancerArn", .str "lb") :: Request.bareConfig.toApi)] := by
  intro fleet
  have hready : fleet.Ready := ready_ofListeners [] 0
  obtain ⟨settings, hloads, -⟩ := loads_bareFile plainWorld rfl fleet
  have hdescribe : (Fleet.cloud.describe Request.bare.loadBalancerArn Request.bare.port.port
      fleet).result = .ok none := rfl
  have hplanned : planned plainWorld bareFile fleet =
      createNotice Request.bare Request.bareConfig :=
    planned_built hloads Request.build_bare (Prod.ext hdescribe (hready.describe _ _).1)
  obtain ⟨-, -, -, hpredicts⟩ := plan_predicts_apply plainWorld bareFile false fleet rfl hready
  obtain ⟨config, hb, happlied, hsent⟩ :=
    (hpredicts settings Request.bare none hloads hdescribe).creates.mp ⟨_, hplanned⟩
  cases Request.build_bare.symm.trans hb
  exact ⟨rfl, hready, ⟨settings, hloads⟩, hplanned, happlied, hsent⟩

/-- The description of a listener with an action that has no type. -/
def untyped : Json :=
  .obj [("ListenerArn", .str "arn"), ("LoadBalancerArn", .str "lb"), ("Port", .int 80),
    ("Protocol", .str "HTTP"), ("DefaultActions", .arr [.obj []])]

/-- That listener. -/
def untypedLive : Listener where
  arn := .str "arn"
  port := 80
  protocol := .http
  defaultActions := [.unmanaged "None" "\x7b\x7d"]
  sslPolicy := .null
  certificates := []
  loadBalancerArn := .str "lb"

theorem ofDocument_untyped : Listener.ofDocument untyped = .ok untypedLive := rfl

theorem drifts_untypedLive : untypedLive.drifts Request.bareConfig =
    .ok [.defaultActions untypedLive.defaultActions Request.bareConfig.defaultActions] := by
  have hlive : untypedLive.certificates.forM Certificate.checkMember = .ok () := rfl
  have hdesired : Request.bareConfig.certificates.forM Certificate.checkMember = .ok () := rfl
  have hport : (Json.int untypedLive.port).equals Request.bareConfig.port = true := by
    decide +kernel
  rw [Listener.drifts, bind_of_eq_ok hlive, bind_of_eq_ok hdesired, hport]
  rfl

theorem driftColumns_untypedLive : View.driftColumns [.defaultActions untypedLive.defaultActions
    Request.bareConfig.defaultActions] = .error (.noMember "Type") := by
  have hdocument : (Action.unmanaged "None" "\x7b\x7d").toApi = .obj [] := by
    have htext : "\x7b\x7d" = (Json.obj []).render := by decide
    rw [Action.toApi, htext, Json.read_render_eq]
    rfl
  have hline : View.actionLine (.unmanaged "None" "\x7b\x7d") = .error (.noMember "Type") := by
    rw [View.actionLine, hdocument]
    rfl
  have hlines : View.actionLines untypedLive.defaultActions = .error (.noMember "Type") :=
    bind_of_eq_error (bind_of_eq_error hline _) _
  exact bind_of_eq_error (bind_of_eq_error (bind_of_eq_error hlines _) _) _

/-- A listener of which a plan only says that its action has no type is modified all the same. -/
theorem plan_breaks_untyped :
    let fleet := Fleet.ofListeners [untyped] 0
    plainWorld.cloud = Fleet.cloud ∧ fleet.Ready ∧
    (∃ settings, Loads plainWorld bareFile fleet settings Request.bare) ∧
    (Fleet.cloud.describe Request.bare.loadBalancerArn Request.bare.port.port fleet).result =
      .ok (some untypedLive) ∧
    planned plainWorld bareFile fleet = ⟨"", .stopped (Stop.ofFault (.noMember "Type"))⟩ ∧
    (perform plainWorld bareFile (.apply bareFile.name false)).reply.sent fleet =
      [(.modify, ("ListenerArn", .str "arn") :: Request.bareConfig.toApi)] := by
  intro fleet
  have hready : fleet.Ready := ready_ofListeners [untyped] 0
  obtain ⟨settings, hloads, -⟩ := loads_bareFile plainWorld rfl fleet
  have hstored : Client.OnPort Request.bare.loadBalancerArn Request.bare.port.port untyped :=
    ⟨by decide +kernel, by decide +kernel⟩
  have hdescribe : (Fleet.cloud.describe Request.bare.loadBalancerArn
      Request.bare.port.port).ending fleet = (.ok (some untypedLive), fleet) := by
    rcases hready.ending_describe Request.bare.loadBalancerArn Request.bare.port.port with
      ⟨hnone, -⟩ | ⟨item, hm, -, hend⟩
    · exact absurd hstored (hnone untyped List.mem_cons_self)
    · rw [List.mem_singleton.mp hm, ofDocument_untyped] at hend
      exact hend
  have hfound := congrArg Prod.fst hdescribe
  dsimp only [Run.ending] at hfound
  have hne : [Drift.defaultActions untypedLive.defaultActions
    Request.bareConfig.defaultActions] ≠ [] := List.cons_ne_nil _ _
  have hcourse :=
    Reconciler.course_of_converge (r := reconciler plainWorld false none) rfl rfl hready
    Request.typed_bare hfound
  refine ⟨rfl, hready, ⟨settings, hloads⟩, hfound, ?_, ?_⟩
  · exact (planned_built hloads Request.build_bare hdescribe).trans
      (forecastReply_unshown drifts_untypedLive hne driftColumns_untypedLive)
  · refine (Session.seen_reply _ fleet).trans ((applied_eq hloads false).2.trans ?_)
    exact hcourse.sent_eq_of_drifts Request.build_bare drifts_untypedLive hne

end Command

end AlbListener
