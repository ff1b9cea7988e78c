import AlbListener.Proofs.Command.Line
import AlbListener.Proofs.Json.RoundTrip
import AlbListener.Proofs.Json.Unicode
import AlbListener.Proofs.Request.Desired
import AlbListener.Proofs.Yaml.Form

/-!
# How commands start

Every command first reads the settings and loads the request in its file. This changes nothing,
and leaves nothing but warnings; a command that gets no request from it ends there.

Results:
* `calm_loadRequest`: loading a request changes nothing.
* `holdsJson_render`: a document is read from the file that it is written into.
* `typed_of_loadRequest`: a request that is loaded from a file is of the declared sorts.
* `ending_loaded`: a command whose request is loaded goes on from there.
* `ending_unloaded`: all commands end alike without a request.
* `ending_performLine`: a command line whose level is known is carried out on its file.
-/

namespace AlbListener

variable {σ γ : Type} {pick : Effect → Option γ}

namespace Request

theorem calm_collectGroups (hlog : ∀ entry, pick (.log entry) = none) (groups : TargetGroups)
    (entries : List Json) : (collectGroups groups entries : Run σ TargetGroups).Calm pick := by
  induction entries generalizing groups with
  | nil => exact Run.calm_pure groups
  | cons entry rest ih =>
    refine (Run.calm_read _).bind fun backend => (Run.calm_read _).bind fun _ => ?_
    have hnext (groups : TargetGroups) : ((do
        let arn ← Run.read (entry.member "targetGroupArn")
        collectGroups (groups.put backend arn) rest) : Run σ TargetGroups).Calm pick :=
      (Run.calm_read _).bind fun arn => ih _
    dsimp only
    split
    · exact (Run.calm_log hlog _ _ _).bind fun _ => hnext groups
    · exact hnext groups

/-- Loading a request changes nothing, and only leaves warnings. -/
theorem calm_load (hlog : ∀ entry, pick (.log entry) = none) {α : Type} [Document α]
    (document : α) (keyPrefix : String) (instance? : Option Listener) :
    (load document keyPrefix instance? : Run σ Request).Calm pick := by
  unfold load
  split
  · exact Run.calm_stop _
  · exact (Run.calm_read _).bind fun _ => (Run.calm_read _).bind fun _ =>
      (calm_collectGroups hlog _ _).bind fun _ => Run.calm_read _

end Request

namespace Command

theorem calm_requestOf (hlog : ∀ entry, pick (.log entry) = none) {α : Type} [Document α]
    (settings : Settings) (document : α) :
    (requestOf settings document : Session σ Request).Calm pick :=
  (Session.calm_lift (Request.calm_load hlog ..).attempt).bind fun _ => Session.calm_settle _ _ _

theorem calm_readYaml (file : File) : (readYaml file : Session σ Yaml.Value).Calm pick := by
  unfold readYaml
  split
  · exact Session.calm_pure _
  · exact Session.calm_settle _ _ _
  · exact Session.calm_finish _ _

/-- The text of a file is that of a document. -/
structure HoldsJson (text : String) (document : Json) : Prop where
  isUnicode : Json.isUnicode (String.ofList (Text.unifyLineEnds text.toList)) = true
  read : Json.readWithin .standard (String.ofList (Text.unifyLineEnds text.toList)) = .ok document

/-- A document that is written into a file. -/
theorem holdsJson_render {document : Json} (hfits : document.fits .standard = true)
    (hread : document.reread = document) : HoldsJson document.render document := by
  have hline : '\r' ∉ document.render.toList := Json.not_mem_render (by decide) document
  have hsame : String.ofList (Text.unifyLineEnds document.render.toList) = document.render := by
    rw [Text.unifyLineEnds_of_not_mem hline, String.ofList_toList]
  constructor
  · rw [hsame, Json.isUnicode_render]
  · rw [hsame, Json.readWithin_render_eq hfits, hread]

theorem HoldsJson.ending_readJson {file : File} {document : Json}
    (h : HoldsJson file.text document) (s : σ) :
    (readJson file : Session σ Json).ending s = (.ok (.ok document), s) := by
  rw [readJson, h.read, if_pos h.isUnicode]
  rfl

theorem calm_readJson (file : File) : (readJson file : Session σ Json).Calm pick := by
  unfold readJson
  dsimp only
  split_ifs
  · exact Session.calm_settle _ _ _
  · exact Session.calm_settle _ _ _

theorem calm_loadRequest (hlog : ∀ entry, pick (.log entry) = none) (settings : Settings)
    (file : File) : (loadRequest settings file : Session σ Request).Calm pick := by
  unfold loadRequest
  split
  · exact (calm_readYaml file).bind fun _ => calm_requestOf hlog settings _
  · exact (calm_readJson file).bind fun _ => calm_requestOf hlog settings _

variable {world : World σ} {file : File} {s s' : σ} {settings : Settings} {request : Request}

theorem load_of_requestOf {α : Type} [Document α] {document : α}
    (h : (requestOf settings document).ending s = (.ok (.ok request), s')) :
    ∃ s'', (Request.load document settings.pass.annotationPrefix none : Run σ Request).ending s =
      (.ok request, s'') := by
  obtain ⟨result, s'', hlift, hsettle⟩ := Session.ending_bind_eq_ok h
  have hattempt := Run.ending_attempt
    (Request.load document settings.pass.annotationPrefix none : Run σ Request) s
  cases (Session.ending_lift hattempt).symm.trans hlift
  exact ⟨_, Prod.ext (Session.eq_ok_of_ending_settle hsettle) rfl⟩

/-- A request that is loaded from a file is of the declared sorts. -/
theorem typed_of_loadRequest
    (h : (loadRequest settings file).ending s = (.ok (.ok request), s')) : request.Typed := by
  unfold loadRequest at h
  split at h
  · obtain ⟨document, s'', -, hrequest⟩ := Session.ending_bind_eq_ok h
    obtain ⟨_, hload⟩ := load_of_requestOf hrequest
    exact Request.typed_of_load_yaml hload
  · obtain ⟨document, s'', -, hrequest⟩ := Session.ending_bind_eq_ok h
    obtain ⟨_, hload⟩ := load_of_requestOf hrequest
    exact Request.typed_of_load hload

/-- The settings and the request that a command starts from. -/
structure Loads (world : World σ) (file : File) (s : σ) (settings : Settings)
    (request : Request) : Prop where
  configured : Settings.ofEnvironment world.environment = .ok settings
  loaded : ((loadRequest settings file).ending s).1 = .ok (.ok request)

theorem Loads.ending_settings (h : Loads world file s settings request) :
    (loadSettings world).ending s = (.ok (.ok settings), s) :=
  ending_loadSettings h.configured s

theorem Loads.ending_request (h : Loads world file s settings request) :
    (loadRequest settings file).ending s = (.ok (.ok request), s) := by
  have hcalm : (loadRequest settings file : Session σ Request).Calm
      (fun _ => (none : Option Unit)) := calm_loadRequest (fun _ => rfl) settings file
  exact Prod.ext h.loaded (hcalm.still s)

/-- A command whose request is loaded goes on from there. -/
theorem ending_loaded (h : Loads world file s settings request)
    (next : Settings → Request → Session σ Reply) :
    (loadSettings world >>= fun settings => loadRequest settings file >>= next settings).ending s =
      (next settings request).ending s := by
  rw [Session.ending_bind_of_ok _ h.ending_settings, Session.ending_bind_of_ok _ h.ending_request]

theorem seen_loaded (hlog : ∀ entry, pick (.log entry) = none)
    (h : Loads world file s settings request) (next : Settings → Request → Session σ Reply) :
    (loadSettings world >>= fun settings => loadRequest settings file >>= next settings).seen
      pick s = (next settings request).seen pick s := by
  rw [Session.seen_bind_of_ok _ h.ending_settings, Session.seen_bind_of_ok _ h.ending_request,
    (calm_loadSettings world).seen_eq, (calm_loadRequest hlog settings file).seen_eq,
    List.nil_append, List.nil_append]

/-- A command whose request is not loaded does nothing and ends the same way, whatever it would
    have done. -/
theorem ending_unloaded (hlog : ∀ entry, pick (.log entry) = none)
    (h : ∀ settings request, ¬Loads world file s settings request) :
    ∃ early : Except Stop (Except Reply Reply), ∀ next : Settings → Request → Session σ Reply,
      let session :=
        loadSettings world >>= fun settings => loadRequest settings file >>= next settings
      session.ending s = (early, s) ∧ session.seen pick s = [] := by
  have hfirst : (loadSettings world).Calm pick := calm_loadSettings world
  have hsecond (settings : Settings) :
      (loadRequest settings file : Session σ Request).Calm pick :=
    calm_loadRequest hlog settings file
  by_cases hs : ∃ settings, ((loadSettings world).ending s).1 = .ok (.ok settings)
  · obtain ⟨settings, hsettings⟩ := hs
    have hend : (loadSettings world).ending s = (.ok (.ok settings), s) :=
      Prod.ext hsettings (hfirst.still s)
    have hconfigured : Settings.ofEnvironment world.environment = .ok settings :=
      mapError_eq_ok_iff.mp (Session.eq_ok_of_ending_settle hend)
    obtain ⟨early, hearly⟩ := Session.ending_bind_early (hsecond settings)
      fun request hrequest => h settings request ⟨hconfigured, hrequest⟩
    refine ⟨early, fun next => ?_⟩
    dsimp only
    rw [Session.ending_bind_of_ok _ hend, Session.seen_bind_of_ok _ hend, hfirst.seen_eq]
    exact hearly (next settings)
  · obtain ⟨early, hearly⟩ := Session.ending_bind_early hfirst fun settings hsettings =>
      hs ⟨settings, hsettings⟩
    exact ⟨early, fun next => hearly _⟩

/-! ## Command lines -/

section

variable {args : List String} {level? : Option String} {command : Command} {text : String}

end

/-- A command line comes to its request: the level that it sets is known, there is a file, and the
    settings and the request are loaded. -/
structure Reaches (world : World σ) (level? : Option String) (path : String) (s : σ)
    (settings : Settings) (request : Request) : Prop where
  known : KnownLevel settings level?
  loads : ∃ text, world.find path = .file text ∧ Loads world ⟨path, text⟩ s settings request

/-! ## A file -/

/-- A file that asks for an HTTP listener. -/
def bareFile : File where
  name := "request.json"
  text := "\x7b\"loadBalancerArn\": \"lb\", \"ingress\": \x7b\"name\": \"web\"\x7d, "
    ++ "\"port\": \x7b\"port\": 80, \"scheme\": \"HTTP\"\x7d\x7d"

/-- The document in that file. -/
def bareDocument : Json :=
  .obj [("loadBalancerArn", .str "lb"), ("ingress", .obj [("name", .str "web")]),
    ("port", .obj [("port", .int 80), ("scheme", .str "HTTP")])]

theorem ending_load_bareDocument (s : σ) :
    (Request.load bareDocument Annotations.defaultPrefix none).ending s =
      (.ok Request.bare, s) := by
  have hreport : Check.report Check.request bareDocument = none := by
    rw [Check.report_eq_none_iff]
    decide +kernel
  have hport : ListenerPort.ofJson (.int 80) (.str "HTTP") = .ok Request.bare.port := by
    dsimp only [ListenerPort.ofJson, Json.number?]
    rw [dif_pos (portInRange_int.mpr (by decide))]
    rfl
  rw [Request.load_eq_ofDocument _ _ hreport]
  have hingress : (Run.read (bareDocument.member "ingress") : Run σ Json).ending s =
      (.ok (.obj [("name", .str "web")]), s) := rfl
  have hentries : (Run.read (do (← bareDocument.getD "targetGroups" (.arr [])).elements) :
      Run σ (List Json)).ending s = (.ok [], s) := rfl
  have hgroups : (Request.collectGroups [] [] : Run σ TargetGroups).ending s =
      (.ok [], s) := rfl
  rw [Request.ofDocument, Run.ending_bind_of_ok _ hingress, Run.ending_bind_of_ok _ hentries,
    Run.ending_bind_of_ok _ hgroups, Run.ending_read]
  have hnamed : Ingress.ofDocument (.obj [("name", .str "web")]) = .ok Request.bare.ingress := rfl
  have hunset : (Json.obj [("name", .str "web")]).getD "annotations" .null = .ok .null := rfl
  have hannotations : Request.annotationsOf Annotations.defaultPrefix .null =
      .ok Request.bare.annotations := rfl
  have hlb : bareDocument.member "loadBalancerArn" = .ok (.str "lb") := rfl
  have hmember : bareDocument.member "port" =
      .ok (.obj [("port", .int 80), ("scheme", .str "HTTP")]) := rfl
  have hnumber : (Json.obj [("port", .int 80), ("scheme", .str "HTTP")]).member "port" =
      .ok (.int 80) := rfl
  have hscheme : (Json.obj [("port", .int 80), ("scheme", .str "HTTP")]).member "scheme" =
      .ok (.str "HTTP") := rfl
  rw [bind_of_eq_ok hlb, bind_of_eq_ok hnamed, bind_of_eq_ok hunset, bind_of_eq_ok hannotations,
    bind_of_eq_ok hmember, bind_of_eq_ok hnumber, bind_of_eq_ok hscheme, bind_of_eq_ok hport]
  rfl

/-- The settings of an environment that sets nothing. -/
theorem exists_settings : ∃ settings, Settings.ofEnvironment [] = .ok settings ∧
    settings.pass.annotationPrefix = Annotations.defaultPrefix ∧ KnownLevel settings none := by
  have h : (Settings.ofEnvironment []).toOption.any (fun settings =>
      settings.pass.annotationPrefix == Annotations.defaultPrefix &&
        decide (KnownLevel settings none)) = true := by
    decide +kernel
  cases hs : Settings.ofEnvironment [] with
  | error fault =>
    rw [hs] at h
    cases h
  | ok settings =>
    rw [hs] at h
    obtain ⟨hkey, hknown⟩ := Bool.and_eq_true_iff.mp h
    exact ⟨settings, rfl, beq_iff_eq.mp hkey, of_decide_eq_true hknown⟩

theorem loads_bareFile (world : World σ) (henv : world.environment = []) (s : σ) :
    ∃ settings, Loads world bareFile s settings Request.bare ∧ KnownLevel settings none := by
  obtain ⟨settings, hsettings, hprefix, hknown⟩ := exists_settings
  have htext : bareFile.text = bareDocument.render := by decide +kernel
  have hholds : HoldsJson bareFile.text bareDocument := htext ▸ holdsJson_render rfl rfl
  have hdocument := hholds.ending_readJson s
  have hload := ending_load_bareDocument s
  have hattempt := Run.ending_attempt
    (Request.load bareDocument Annotations.defaultPrefix none : Run σ Request) s
  rw [hload] at hattempt
  refine ⟨settings, ⟨henv ▸ hsettings, ?_⟩, hknown⟩
  rw [loadRequest, if_neg (by decide), Session.ending_bind_of_ok _ hdocument, requestOf, hprefix,
    Session.ending_bind_of_ok _ (Session.ending_lift hattempt)]
  rfl

end Command

end AlbListener
