import AlbListener.Proofs.Command.Line
import AlbListener.Proofs.Command.Plan
import AlbListener.Proofs.Secret.Pass

/-!
# Commands on other client secrets

Two worlds are twins if they are the same but for client secrets: in the requests in their files,
and in what their clouds hold. A command that does not print what calls pass replies the same in
both, word for word.

Results:
* `Session.Twin.bind`: one session after another.
* `loadRequest_twin`: the requests in twin files.
* `run_twin`: the replies in twin worlds.
* `secrets_undisclosed`: nothing that is told of a request or printed by a command tells which
  client secrets a request and a fleet hold.
-/

namespace AlbListener

variable {σ α α' β β' γ : Type} {pick : Effect → Option γ} {S : σ → σ → Prop}

/-! ## Sessions -/

namespace Session

/-- Sessions that cannot be told apart. -/
def Twin (pick : Effect → Option γ) (S : σ → σ → Prop) (R : α → α' → Prop) (session : Session σ α)
    (session' : Session σ α') : Prop :=
  Run.Twin pick S (Alike Eq R) (ExceptT.run session) (ExceptT.run session')

variable {R : α → α' → Prop} {Q : β → β' → Prop} {session : Session σ α} {session' : Session σ α'}

theorem twin_pure {a : α} {a' : α'} (h : R a a') :
    Twin pick S R (pure a : Session σ α) (pure a' : Session σ α') := Run.twin_pure (.ok h)

theorem twin_finish (output : String) (ending : Ending) :
    Twin pick S R (finish output ending : Session σ α) (finish output ending : Session σ α') :=
  Run.twin_pure (.error rfl)

theorem twin_lift {run : Run σ α} {run' : Run σ α'} (h : Run.Twin pick S R run run') :
    Twin pick S R (liftM run : Session σ α) (liftM run' : Session σ α') :=
  h.bind fun _ _ ha => Run.twin_pure (.ok ha)

theorem twin_settle (words : Failure → Option String) (output : String) {result : Except Stop α}
    {result' : Except Stop α'} (h : Alike Eq R result result') :
    Twin pick S R (settle words output result : Session σ α)
      (settle words output result' : Session σ α') := by
  cases h with
  | ok h => exact twin_pure h
  | error he =>
    rw [he, settle_error, settle_error]
    exact twin_finish _ _

theorem twin_reading (output : String) {step : Except Fault α} {step' : Except Fault α'}
    (h : Alike Eq R step step') :
    Twin pick S R (reading output step : Session σ α) (reading output step' : Session σ α') :=
  twin_settle _ _ (h.mapError _)

namespace Twin

theorem bind {next : α → Session σ β} {next' : α' → Session σ β'}
    (h : Twin pick S R session session')
    (hn : ∀ a a', R a a' → Twin pick S Q (next a) (next' a')) :
    Twin pick S Q (session >>= next) (session' >>= next') := by
  refine Run.Twin.bind h fun result result' hresult => ?_
  cases hresult with
  | ok ha => exact hn _ _ ha
  | error he => exact Run.twin_pure (.error he)

theorem bind_same {session : Session σ α} {next : α → Session σ β} {next' : α → Session σ β'}
    (h : Twin pick S Eq session session) (hn : ∀ a, Twin pick S Q (next a) (next' a)) :
    Twin pick S Q (session >>= next) (session >>= next') :=
  h.bind fun a _ ha => ha ▸ hn a

theorem reply {session session' : Session σ Reply} (h : Twin pick S Eq session session') :
    Run.Twin pick S Eq session.reply session'.reply := by
  refine (Run.Twin.attempt h).bind fun ended ended' he => ?_
  cases he with
  | error he => exact Run.twin_pure (by rw [he])
  | ok hresult =>
    cases hresult with
    | ok hr => exact Run.twin_pure hr
    | error hr => exact Run.twin_pure hr

end Twin

end Session

namespace Command

/-! ## Files -/

/-- Files that are the same, or hold documents of one format that are the same but for client
    secrets in annotations. -/
inductive File.Twin (keyPrefix : String) : File → File → Prop
  | refl (file : File) : Twin keyPrefix file file
  | json {name text text' : String} {document document' : Json}
      (hformat : File.isYaml ⟨name, text⟩ = false) (hread : HoldsJson text document)
      (hread' : HoldsJson text' document')
      (h : Request.DocumentTwin keyPrefix document document') :
      Twin keyPrefix ⟨name, text⟩ ⟨name, text'⟩
  | yaml {name text text' : String} {document document' : Yaml.Value}
      (hformat : File.isYaml ⟨name, text⟩ = true) (hread : Yaml.read text = .ok document)
      (hread' : Yaml.read text' = .ok document')
      (h : Request.DocumentTwin keyPrefix document document') :
      Twin keyPrefix ⟨name, text⟩ ⟨name, text'⟩

variable {keyPrefix : String} {file file' : File}

theorem File.Twin.isYaml (h : File.Twin keyPrefix file file') : file.isYaml = file'.isYaml := by
  cases h <;> rfl

theorem readJson_twin (h : File.Twin keyPrefix file file') (hformat : file.isYaml = false) :
    Session.Twin pick S (Request.DocumentTwin keyPrefix) (readJson file) (readJson file') := by
  have hsame (step : Except Stop Json) : Alike Eq (Request.DocumentTwin keyPrefix) step step :=
    .refl (fun _ => rfl) .refl step
  unfold readJson
  dsimp only
  cases h with
  | refl =>
    split_ifs
    · exact Session.twin_settle _ _ (hsame _)
    · exact Session.twin_settle _ _ (hsame _)
  | json _ hread hread' h =>
    dsimp only
    rw [if_pos hread.isUnicode, if_pos hread'.isUnicode, hread.read, hread'.read]
    exact Session.twin_settle _ _ (.ok h)
  | yaml hyaml => cases hyaml.symm.trans hformat

theorem readYaml_twin (h : File.Twin keyPrefix file file') (hformat : file.isYaml = true) :
    Session.Twin pick S (Request.DocumentTwin keyPrefix) (readYaml file) (readYaml file') := by
  unfold readYaml
  cases h with
  | refl =>
    split
    · exact Session.twin_pure (.refl _)
    · exact Session.twin_settle _ _ (.error rfl)
    · exact Session.twin_finish _ _
  | json hjson => cases hjson.symm.trans hformat
  | yaml _ hread hread' h =>
    rw [hread, hread']
    exact Session.twin_pure h

theorem requestOf_twin {δ : Type} [Document δ] [LawfulDocument δ] {settings : Settings}
    {document document' : δ}
    (h : Request.DocumentTwin settings.pass.annotationPrefix document document') :
    Session.Twin pick S Request.Twin (requestOf settings document) (requestOf settings document') :=
  (Session.twin_lift (Request.load_twin h).attempt).bind fun _ _ => Session.twin_settle _ _

/-- The requests in twin files are twins. -/
theorem loadRequest_twin {settings : Settings}
    (h : File.Twin settings.pass.annotationPrefix file file') :
    Session.Twin pick S Request.Twin (loadRequest settings file) (loadRequest settings file') := by
  unfold loadRequest
  rw [← h.isYaml]
  split_ifs with hformat
  · exact (readYaml_twin h hformat).bind fun _ _ => requestOf_twin
  · exact (readJson_twin h (Bool.eq_false_iff.mpr hformat)).bind fun _ _ => requestOf_twin

/-! ## Worlds -/

/-- What stands at a path in twin worlds. -/
inductive FoundTwin (keyPrefix name : String) : PathTarget → PathTarget → Prop
  | refl (target : PathTarget) : FoundTwin keyPrefix name target target
  | file {text text' : String} (h : File.Twin keyPrefix ⟨name, text⟩ ⟨name, text'⟩) :
      FoundTwin keyPrefix name (.file text) (.file text')

/-- Worlds that are the same but for what their clouds hold and for client secrets in files. -/
structure WorldTwin (keyPrefix : String) (world world' : World σ) : Prop where
  environment : world.environment = world'.environment
  now : world.now = world'.now
  settings : ∀ settings, Settings.ofEnvironment world.environment = .ok settings →
    settings.pass.annotationPrefix = keyPrefix
  find : ∀ path, FoundTwin keyPrefix path (world.find path) (world'.find path)

variable {world world' : World σ}

theorem WorldTwin.loadSettings (h : WorldTwin keyPrefix world world') :
    Session.Twin pick S (fun settings settings' => settings = settings' ∧
      settings.pass.annotationPrefix = keyPrefix) (loadSettings world) (loadSettings world') := by
  unfold Command.loadSettings
  rw [← h.environment]
  exact Session.twin_reading _ ((Alike.same _).and_left h.settings)

theorem desired_twin {request request' : Request} (h : request.Twin request') :
    Session.Twin pick S ListenerConfig.Twin (desired request : Session σ ListenerConfig)
      (desired request') :=
  Session.twin_settle _ _ (h.build.mapError _)

/-! ## Commands -/

theorem showDesired_twin (h : WorldTwin keyPrefix world world')
    (hf : File.Twin keyPrefix file file') :
    Session.Twin pick S Eq (showDesired world file .table) (showDesired world' file' .table) := by
  refine h.loadSettings.bind ?_
  rintro settings _ ⟨rfl, rfl⟩
  refine (loadRequest_twin hf).bind fun request request' hrequest => ?_
  refine (desired_twin hrequest).bind fun config config' hconfig => ?_
  dsimp only
  rw [View.configTable_of_twin hconfig]
  exact (Session.twin_reading _ (.same _)).bind_same fun _ => Session.twin_pure rfl

theorem forecast_twin {request request' : Request} (hr : request.Twin request')
    {config config' : ListenerConfig} (hc : config.Twin config') {live? live?' : Option Listener}
    (hl : Option.Rel Listener.Twin live? live?') :
    Session.Twin pick S Eq (forecast request config live?) (forecast request' config' live?') := by
  cases hl with
  | none =>
    unfold forecast createNotice
    rw [hr.port, hc.protocol]
    exact Session.twin_pure rfl
  | some hl =>
    refine (Session.twin_reading _ (Listener.drifts_twin hl hc)).bind fun drifts drifts' hd => ?_
    have hempty : drifts.isEmpty = drifts'.isEmpty := by cases hd <;> rfl
    unfold currentNotice driftNotice driftHead
    rw [hempty, hl.arn, Drift.columns_of_twin hd]
    split_ifs
    · exact Session.twin_pure rfl
    · exact (Session.twin_reading _ (.same _)).bind_same fun _ =>
        (Session.twin_reading _ (.same _)).bind_same fun _ => Session.twin_pure rfl

theorem showDrift_twin (h : WorldTwin keyPrefix world world')
    (hc : world.cloud.Twin pick S world'.cloud) (hf : File.Twin keyPrefix file file') :
    Session.Twin pick S Eq (showDrift world file) (showDrift world' file') := by
  rw [showDrift_eq, showDrift_eq]
  refine h.loadSettings.bind ?_
  rintro settings _ ⟨rfl, rfl⟩
  refine (loadRequest_twin hf).bind fun request request' hrequest => ?_
  refine (desired_twin hrequest).bind fun config config' hconfig => ?_
  rw [hrequest.loadBalancerArn, hrequest.port]
  refine (Session.twin_lift (hc.describe _ _).attempt).bind fun described described' hd => ?_
  exact (Session.twin_settle _ _ hd).bind fun _ _ => forecast_twin hrequest hconfig

theorem twin_showEvents (watch : Bool) (turns : ℕ → ℕ) (events : List Event) :
    Run.Twin pick S Eq (showEvents watch turns events : Run σ String)
      (showEvents watch turns events) := by
  cases watch with
  | false => exact Run.twin_pure rfl
  | true => exact fun _ _ hs => ⟨.ok rfl, hs, rfl⟩

theorem bringAbout_twin (h : WorldTwin keyPrefix world world')
    (hc : world.cloud.Twin Effect.published S world'.cloud) (hf : File.Twin keyPrefix file file')
    (watch : Bool) :
    Session.Twin Effect.published S Eq (bringAbout world file watch)
      (bringAbout world' file' watch) := by
  refine h.loadSettings.bind ?_
  rintro settings _ ⟨rfl, rfl⟩
  refine (loadRequest_twin hf).bind fun request request' hrequest => ?_
  have hreconciler : Reconciler.Twin Effect.published S
      { cloud := world.cloud, rules := .unmanaged, announces := watch, now := world.now }
      { cloud := world'.cloud, rules := .unmanaged, announces := watch, now := world'.now } :=
    ⟨hidesCalls_published, hc, RuleReconciler.unmanaged_twin, rfl, fun _ => by rw [h.now]⟩
  refine (Session.twin_lift (hreconciler.converge hrequest).observe).bind ?_
  rintro ⟨result, trace⟩ ⟨result', trace'⟩ ⟨hresult, htrace⟩
  dsimp only at htrace ⊢
  rw [htrace]
  refine (Session.twin_lift (twin_showEvents _ _ _)).bind_same fun events => ?_
  have hended : Alike Eq Result.Twin (awaited none trace result) (awaited none trace' result') := by
    rw [awaited_none, awaited_none]
    exact hresult
  refine (Session.twin_settle _ _ hended).bind fun result result' hr => ?_
  rw [hr.listener.arn, hr.type]
  exact Session.twin_pure rfl

/-- A command that prints what calls pass. -/
def PrintsParams : Command → Prop
  | .render _ format => format ≠ .table
  | .plan _ | .apply _ _ => False

theorem perform_twin (h : WorldTwin keyPrefix world world')
    (hc : world.cloud.Twin Effect.published S world'.cloud) (hf : File.Twin keyPrefix file file')
    {command : Command} (hp : ¬ command.PrintsParams) :
    Session.Twin Effect.published S Eq (perform world file command)
      (perform world' file' command) := by
  cases command with
  | render _ format =>
    obtain rfl : format = .table := not_not.mp hp
    exact showDesired_twin h hf
  | plan => exact showDrift_twin h hc hf
  | apply _ watch => exact bringAbout_twin h hc hf watch

/-- A command line does not print what calls pass. -/
def Discreet (args : List String) : Prop :=
  ∀ invocation, CommandLine.ofArgs? args = some invocation →
    ∀ command, invocation.command? = some command → ¬ command.PrintsParams

theorem carryOut_twin (h : WorldTwin keyPrefix world world')
    (hc : world.cloud.Twin Effect.published S world'.cloud) {command? : Option Command}
    (hp : ∀ command, command? = some command → ¬ command.PrintsParams) :
    Session.Twin Effect.published S Eq (carryOut world {} command?)
      (carryOut world' {} command?) := by
  cases command? with
  | none => exact Session.twin_finish _ _
  | some command =>
    have hfound := h.find command.fileName
    unfold carryOut
    dsimp only
    generalize world.find command.fileName = target,
      world'.find command.fileName = target' at hfound
    cases hfound with
    | file hf => exact perform_twin h hc hf (hp command rfl)
    | refl =>
      cases target with
      | nothing => exact Session.twin_finish _ _
      | unusable => exact Session.twin_finish _ _
      | directory => exact h.loadSettings.bind fun _ _ _ => Session.twin_finish _ _
      | file text => exact perform_twin h hc (.refl _) (hp command rfl)

/-- The level of what is recorded depends on the environment. -/
theorem chooseLevel_twin (h : WorldTwin keyPrefix world world') (level? : Option String) :
    Session.Twin pick S Eq (chooseLevel world level?) (chooseLevel world' level?) := by
  have hset (level : String) :
      Session.Twin pick S Eq (setLevel level : Session σ Unit) (setLevel level) := by
    unfold setLevel
    split_ifs
    · exact Session.twin_pure rfl
    · exact Session.twin_finish _ _
  unfold chooseLevel
  dsimp only
  split_ifs
  · refine h.loadSettings.bind ?_
    rintro settings _ ⟨rfl, -⟩
    exact hset _
  · exact hset _

theorem performLine_twin (h : WorldTwin keyPrefix world world')
    (hc : world.cloud.Twin Effect.published S world'.cloud) {args : List String}
    (hargs : Discreet args) :
    Session.Twin Effect.published S Eq (performLine world args) (performLine world' args) := by
  rw [performLine_eq, performLine_eq]
  cases hinvocation : CommandLine.ofArgs? args with
  | none => exact Session.twin_finish _ _
  | some invocation =>
    exact (chooseLevel_twin h _).bind fun _ _ _ => carryOut_twin h hc (hargs invocation hinvocation)

/-- The replies to a command line in twin worlds are the same. -/
theorem run_twin (h : WorldTwin keyPrefix world world')
    (hc : world.cloud.Twin Effect.published S world'.cloud) {args : List String}
    (hargs : Discreet args) : Run.Twin Effect.published S Eq (run world args) (run world' args) :=
  (performLine_twin h hc hargs).reply.bind fun _ _ hr => Run.twin_pure (congrArg Reply.plain hr)

/-! ## What is disclosed -/

/-- Which client secrets a request and a fleet hold is told by nothing that is decided, published
    or printed: two documents are refused alike or loaded as requests of which the same is told,
    whatever brings the rules in line and whatever the time, and a command that does not print what
    calls pass replies the same. -/
theorem secrets_undisclosed {fleet fleet' : Fleet} (hf : fleet.Twin fleet') {keyPrefix : String} :
    (∀ {α : Type} [Document α] [LawfulDocument α] {document document' : α},
      Request.DocumentTwin keyPrefix document document' →
      ∀ {rules : RuleReconciler Fleet},
        RuleReconciler.Twin Effect.announced Fleet.Twin rules rules →
      ∀ (announces : Bool) (now now' : String),
        Alike Eq
          (fun request request' =>
            Reconciler.sight ⟨Fleet.cloud, rules, announces, now⟩ request fleet =
              Reconciler.sight ⟨Fleet.cloud, rules, announces, now'⟩ request' fleet')
          (Request.load document keyPrefix none fleet).result
          (Request.load document' keyPrefix none fleet').result) ∧
    ∀ {world world' : World Fleet}, world.cloud = Fleet.cloud → world'.cloud = Fleet.cloud →
      WorldTwin keyPrefix world world' → ∀ args, Discreet args →
        (run world args fleet).result = (run world' args fleet').result := by
  constructor
  · intro α _ _ document document' hd rules hrules announces now now'
    have hreconciler : Reconciler.Twin Effect.announced Fleet.Twin
        ⟨Fleet.cloud, rules, announces, now⟩ ⟨Fleet.cloud, rules, announces, now'⟩ :=
      ⟨hidesCalls_announced, Fleet.cloud_twin hidesCalls_announced, hrules, rfl, fun _ => rfl⟩
    have hload : Run.Twin Effect.announced Fleet.Twin Request.Twin
        (Request.load document keyPrefix none) (Request.load document' keyPrefix none) :=
      Request.load_twin hd
    exact (hload fleet fleet' hf).result.mono (fun _ _ => id) fun request request' hr =>
      Reconciler.sight_of_twin hreconciler hr hf
  · intro world world' hcloud hcloud' hw args hargs
    have hc : world.cloud.Twin Effect.published Fleet.Twin world'.cloud := by
      rw [hcloud, hcloud']
      exact Fleet.cloud_twin hidesCalls_published
    exact (run_twin hw hc hargs fleet fleet' hf).result.eq

/-! ## A request to sign users in -/

/-- The document of an action by which users sign in. -/
def signInAction (secret : String) : Json :=
  .obj [("Type", .str "authenticate-oidc"),
    (Provider.oidc.configName,
      .obj [("Issuer", .str "https://login.example"), (Action.secretName, .str secret)])]

/-- The annotations that define that action. -/
def signInAnnotations (secret : String) : Json :=
  .obj [("alb.ingress.kubernetes.io/actions.login", .str (signInAction secret).render)]

/-- The ingress that refers to that action. -/
def signInIngress (secret : String) : Json :=
  .obj [("name", .str "web"), ("annotations", signInAnnotations secret),
    ("spec", .obj [("backend",
      .obj [("serviceName", .str "login"), ("servicePort", .str "use-annotation")])])]

/-- The request for a listener with that action. -/
def signInRequest (secret : String) : Json :=
  .obj [("loadBalancerArn", .str "lb"), ("ingress", signInIngress secret),
    ("port", .obj [("port", .int 443), ("scheme", .str "HTTPS")])]

/-- A fleet that holds a listener with that action. -/
def signInFleet (secret : String) : Fleet :=
  .ofListeners [.obj [("ListenerArn", .str "lb/listener/1"), ("LoadBalancerArn", .str "lb"),
    ("Port", .int 443), ("Protocol", .str "HTTPS"),
    ("DefaultActions", .arr [signInAction secret])]] 0

/-- A world with the request in a file. -/
def signInWorld (secret : String) : World Fleet where
  cloud := Fleet.cloud
  find path := if path = "request.json" then .file (signInRequest secret).render else .nothing
  environment := []
  now := "2024-01-01T00:00:00+00:00"

theorem signInAction_twin (s s' : String) :
    Action.DocumentTwin (signInAction s) (signInAction s') :=
  .obj (.cons ⟨rfl, .inl rfl⟩ (.cons ⟨rfl, .inr ⟨⟨.oidc, rfl⟩,
    .obj (.cons ⟨rfl, .inl rfl⟩ (.cons ⟨rfl, .inr ⟨rfl, s, s', rfl, rfl⟩⟩ .nil))⟩⟩ .nil))

theorem signInFleet_twin (s s' : String) : (signInFleet s).Twin (signInFleet s') where
  listeners := .cons (.obj (.cons ⟨rfl, .inl rfl⟩ (.cons ⟨rfl, .inl rfl⟩ (.cons ⟨rfl, .inl rfl⟩
    (.cons ⟨rfl, .inl rfl⟩ (.cons ⟨rfl, .inr ⟨rfl, .arr (.cons (signInAction_twin s s') .nil)⟩⟩
      .nil)))))) .nil
  created := rfl
  pageSize := rfl
  pending := rfl
  answer? := .none
  pages? := .none

theorem signInRequest_twin (s s' : String) :
    Request.DocumentTwin Annotations.defaultPrefix (signInRequest s) (signInRequest s') := by
  have hvalue : Request.AnnotationTwin (Json.str (signInAction s).render)
      (Json.str (signInAction s').render) :=
    ⟨_, _, rfl, rfl, Annotations.contentTwin_render (signInAction_twin s s') rfl rfl⟩
  have hannotations : Document.TwinAt (Annotations.DefinesAction Annotations.defaultPrefix)
      Request.AnnotationTwin (signInAnnotations s) (signInAnnotations s') :=
    Document.twinAt_obj (.cons ⟨rfl, .inr ⟨⟨"login", rfl⟩, hvalue⟩⟩ .nil)
  have hingress : Request.IngressTwin Annotations.defaultPrefix (signInIngress s)
      (signInIngress s') :=
    Document.twinAt_obj (.cons ⟨rfl, .inl rfl⟩ (.cons ⟨rfl, .inr ⟨rfl, hannotations⟩⟩
      (.cons ⟨rfl, .inl rfl⟩ .nil)))
  exact Document.twinAt_obj (.cons ⟨rfl, .inl rfl⟩ (.cons ⟨rfl, .inr ⟨rfl, hingress⟩⟩
    (.cons ⟨rfl, .inl rfl⟩ .nil)))

theorem signInWorld_twin (s s' : String) :
    WorldTwin Annotations.defaultPrefix (signInWorld s) (signInWorld s') where
  environment := rfl
  now := rfl
  settings := fun settings h => by
    obtain ⟨settings', h', hprefix, -⟩ := exists_settings
    cases h'.symm.trans h
    exact hprefix
  find := fun path => by
    unfold signInWorld
    dsimp only
    split_ifs with hpath
    · have hjson : File.isYaml ⟨path, (signInRequest s).render⟩ = false := by
        rw [hpath]
        show (".yaml".toList.isSuffixOf "request.json".toList ||
          ".yml".toList.isSuffixOf "request.json".toList) = false
        decide
      exact .file (.json hjson (holdsJson_render rfl rfl) (holdsJson_render rfl rfl)
        (signInRequest_twin s s'))
    · exact .refl _

/-- A request to sign users in with another secret, and a fleet that holds another one, are not told
    apart, neither by what is told of the request nor by the plan. -/
theorem secrets_undisclosed_signIn :
    signInFleet "first" ≠ signInFleet "second" ∧
    (∃ request request' : Request,
      (Request.load (signInRequest "first") Annotations.defaultPrefix none
        (signInFleet "first")).result = .ok request ∧
      (Request.load (signInRequest "second") Annotations.defaultPrefix none
        (signInFleet "second")).result = .ok request' ∧
      Reconciler.sight ⟨Fleet.cloud, .unmanaged, true, "noon"⟩ request (signInFleet "first") =
        Reconciler.sight ⟨Fleet.cloud, .unmanaged, true, "midnight"⟩ request'
          (signInFleet "second")) ∧
    (run (signInWorld "first") ["plan", "request.json"] (signInFleet "first")).result =
      (run (signInWorld "second") ["plan", "request.json"] (signInFleet "second")).result := by
  have hplan : Discreet ["plan", "request.json"] := by
    intro invocation hinvocation command hcommand
    have hparsed : (CommandLine.ofArgs? ["plan", "request.json"]).bind (·.command?) =
        some (.plan "request.json") := by decide +kernel
    rw [hinvocation, Option.bind_some, hcommand] at hparsed
    cases hparsed
    exact id
  have hreport : Check.report Check.request (signInRequest "first") = none := by
    rw [Check.report_eq_none_iff]
    decide +kernel
  have hload : (Request.load (signInRequest "first") Annotations.defaultPrefix none
      (signInFleet "first")).result.isOk = true := by
    rw [Request.load_eq_ofDocument _ _ hreport]
    decide +kernel
  obtain ⟨htold, hprinted⟩ := secrets_undisclosed (signInFleet_twin "first" "second")
  have hsight := htold (signInRequest_twin "first" "second") RuleReconciler.unmanaged_twin true
    "noon" "midnight"
  refine ⟨fun he => ?_, ?_, hprinted rfl rfl (signInWorld_twin "first" "second") _ hplan⟩
  · simp [signInFleet, Fleet.ofListeners, signInAction] at he
  · generalize hended : (Request.load (signInRequest "first") Annotations.defaultPrefix none
      (signInFleet "first")).result = ended at hload hsight
    cases ended with
    | error reason => cases hload
    | ok request =>
      obtain ⟨request', hended', hsame⟩ := hsight.exists_ok rfl
      exact ⟨request, request', rfl, hended', hsame⟩

end Command

end AlbListener
