import AlbListener.Proofs.Action.Alike

/-!
# Members that are null

The optional members of an action document can be left out. Most readers take a null in the place
of such a member as if nothing stood there; the reader of redirects takes it as a value. The
component is then null, and not what is taken over from the request, and the port, which is kept as
a text, is the text of null.

Results:
* `ofDocument_nulled`: what is read of a document in which nulls stand for absent members, and when
  it is the same action.
* `redirect_null_host`: a redirect whose host is null is not the redirect without a host.
-/

namespace AlbListener.Action

open Entries (get?)
open Json (given)

/-! ## Nulls for absent members -/

/-- Members to which nulls are added under names that had no value. -/
structure NullsAdded (names : List String) (members filled : List (String × Json)) : Prop where
  absent : ∀ name ∈ names, get? members name = none
  null : ∀ name ∈ names, get? filled name = some .null
  other : ∀ name ∉ names, get? filled name = get? members name

/-- The optional members of the configs of actions. -/
def optionalMembers : List (ActionType × String × List String) := [
  (.forward, "ForwardConfig", ["TargetGroups"]),
  (.fixedResponse, "FixedResponseConfig", ["ContentType", "MessageBody"]),
  (.redirect, "RedirectConfig", ["Protocol", "Port", "Host", "Path", "Query"])]

/-- Documents of a type of action, the second of which has nulls under some of the optional names
    that the first one leaves out: that of the config of a forward, or names in a config. -/
inductive Nulled (members filled : List (String × Json)) : ActionType → List String → Prop
  | forwardConfig (h : NullsAdded ["ForwardConfig"] members filled) :
      Nulled members filled .forward ["ForwardConfig"]
  | config {type : ActionType} {config : String} {optional names : List String}
      {settings filledSettings : List (String × Json)}
      (hc : (type, config, optional) ∈ optionalMembers) (hn : names ⊆ optional)
      (hs : get? members config = some (.obj settings))
      (hf : get? filled config = some (.obj filledSettings))
      (ho : ∀ name, name ≠ config → get? filled name = get? members name)
      (h : NullsAdded names settings filledSettings) : Nulled members filled type names

/-- A component of a redirect, or null if its name is one of those that are null. -/
def nulledAt (names : List String) (name : String) (component : Json) : Json :=
  if name ∈ names then .null else component

/-- The action that is read if nulls stand under these names. -/
def withNulls (names : List String) : Action → Action
  | .redirect status protocol port host path query =>
    .redirect status (nulledAt names "Protocol" protocol)
      (if "Port" ∈ names then .str Json.null.display else port) (nulledAt names "Host" host)
      (nulledAt names "Path" path) (nulledAt names "Query" query)
  | a => a

section

variable {names : List String} {members filled : List (String × Json)}

/-- A null reads as nothing where null is read if nothing is there. -/
theorem NullsAdded.given_eq (h : NullsAdded names members filled) (name : String) :
    given filled name = given members name := by
  unfold given
  by_cases hn : name ∈ names
  · rw [h.null name hn, h.absent name hn]
    rfl
  · rw [h.other name hn]

/-- Where something else is read if nothing is there, a null is read instead. -/
theorem NullsAdded.getD_eq (h : NullsAdded names members filled) (name : String)
    (default : Json) : (get? filled name).getD default =
      nulledAt names name ((get? members name).getD default) := by
  unfold nulledAt
  split_ifs with hn
  · rw [h.null name hn]
    rfl
  · rw [h.other name hn]

/-- A null that is kept as a text is the text of null. -/
theorem str_display_nulledAt (names : List String) (name : String) (component : Json) :
    Json.str (nulledAt names name component).display =
      if name ∈ names then .str Json.null.display else .str component.display := by
  unfold nulledAt
  split_ifs <;> rfl

/-! ## Reading the documents -/

/-- A config that is given is read as it is. -/
theorem configOf_of_get? {config : String} {settings : List (String × Json)}
    (h : get? members config = some (.obj settings)) : configOf members config = .obj settings := by
  rw [configOf, given, h, Option.getD_some, Json.orElse_obj_nil]

/-- Of a forward only the groups and the arn at the top are read. -/
theorem forwardOf_congr (hc : (configOf filled "ForwardConfig").getD "TargetGroups" .null =
      (configOf members "ForwardConfig").getD "TargetGroups" .null)
    (ha : given filled "TargetGroupArn" = given members "TargetGroupArn") :
    forwardOf (.obj filled) = forwardOf (.obj members) := by
  unfold configOf at hc
  unfold forwardOf
  rw [bind_of_eq_ok (getD_null _ "ForwardConfig"), bind_of_eq_ok (getD_null _ "ForwardConfig")]
  simp only [hc, getD_null, ha]

theorem exists_arn_of_forwardOf {data : Json} {a : Action} (h : forwardOf data = .ok a) :
    ∃ arn, a = .forward arn := by
  have hfinish {arn : Json} (h : (if arn.isTruthy then Except.ok (.forward arn)
      else .error (Fault.invalid .noTargetGroup)) = .ok a) : ∃ arn, a = .forward arn := by
    split_ifs at h
    cases h
    exact ⟨arn, rfl⟩
  unfold forwardOf at h
  obtain ⟨_, -, h⟩ := bind_eq_ok_iff.mp h
  obtain ⟨_, -, h⟩ := bind_eq_ok_iff.mp h
  obtain ⟨_, -, h⟩ := bind_eq_ok_iff.mp h
  split_ifs at h
  obtain ⟨_, -, h⟩ := bind_eq_ok_iff.mp h
  split_ifs at h
  · obtain ⟨_, -, h⟩ := bind_eq_ok_iff.mp h
    obtain ⟨_, -, h⟩ := bind_eq_ok_iff.mp h
    exact hfinish h
  · exact hfinish h

/-- A fixed response is read of a config that gives a status code. -/
theorem fixedResponseOf_eq_ok_iff {settings : List (String × Json)} {a : Action}
    (hs : get? members "FixedResponseConfig" = some (.obj settings)) :
    fixedResponseOf (.obj members) = .ok a ↔ ∃ status, get? settings "StatusCode" = some status ∧
      .fixedResponse (.str status.display) (given settings "ContentType")
        (given settings "MessageBody") = a := by
  have hconfig := configOf_of_get? hs
  unfold configOf at hconfig
  unfold fixedResponseOf
  rw [bind_of_eq_ok (getD_null _ _), hconfig]
  dsimp only
  rw [Json.mentions_obj, bind_of_eq_ok rfl, Entries.has, Json.member]
  cases get? settings "StatusCode" with
  | none => simp
  | some status => simp [getD_null, bind, Except.bind, pure, Except.pure]

/-- A redirect is read of a config that gives a status code. -/
theorem redirectOf_eq_ok_iff {settings : List (String × Json)} {a : Action}
    (hs : get? members "RedirectConfig" = some (.obj settings)) :
    redirectOf (.obj members) = .ok a ↔ ∃ status, get? settings "StatusCode" = some status ∧
      .redirect status ((get? settings "Protocol").getD keepProtocol)
        (.str ((get? settings "Port").getD keepPort).display)
        ((get? settings "Host").getD keepHost) ((get? settings "Path").getD keepPath)
        ((get? settings "Query").getD keepQuery) = a := by
  have hconfig := configOf_of_get? hs
  unfold configOf at hconfig
  unfold redirectOf
  rw [bind_of_eq_ok (getD_null _ _), hconfig]
  dsimp only
  rw [Json.mentions_obj, bind_of_eq_ok rfl, Entries.has, Json.member]
  cases get? settings "StatusCode" with
  | none => simp
  | some status => simp [Json.getD_obj, bind, Except.bind, pure, Except.pure]

/-! ## Redirects with nulls -/

/-- A component that is null is another one than what is taken over from the request. -/
theorem same_nulledAt_iff {settings : List (String × Json)} (hd : (Json.obj settings).Distinct)
    (habsent : ∀ name ∈ names, get? settings name = none) (name kept : String) :
    (nulledAt names name ((get? settings name).getD (.str kept))).same
      ((get? settings name).getD (.str kept)) = true ↔ name ∉ names := by
  unfold nulledAt
  split_ifs with hn
  · rw [habsent name hn]
    exact iff_of_false Bool.false_ne_true (not_not_intro hn)
  · exact iff_of_true (Json.same_refl (Json.hereditary_distinct.value hd name
      (Json.distinct_str kept))) hn

theorem same_nulledPort_iff {settings : List (String × Json)}
    (habsent : ∀ name ∈ names, get? settings name = none) :
    (if "Port" ∈ names then Json.str Json.null.display
      else .str ((get? settings "Port").getD keepPort).display).same
      (.str ((get? settings "Port").getD keepPort).display) = true ↔ "Port" ∉ names := by
  split_ifs with hn
  · rw [habsent _ hn]
    exact iff_of_false (by decide) (not_not_intro hn)
  · exact iff_of_true (Json.same_refl (Json.distinct_str _)) hn

/-- With a null for any of its components a redirect is another one. -/
theorem same_withNulls_redirect_iff {settings : List (String × Json)} {status : Json}
    (hd : (Json.obj settings).Distinct) (hstatus : get? settings "StatusCode" = some status)
    (hn : names ⊆ ["Protocol", "Port", "Host", "Path", "Query"])
    (habsent : ∀ name ∈ names, get? settings name = none) {a : Action}
    (ha : .redirect status ((get? settings "Protocol").getD keepProtocol)
      (.str ((get? settings "Port").getD keepPort).display)
      ((get? settings "Host").getD keepHost) ((get? settings "Path").getD keepPath)
      ((get? settings "Query").getD keepQuery) = a) :
    (a.withNulls names).same a = true ↔ names = [] := by
  have hsame : status.same status = true :=
    Json.same_refl (Json.hereditary_distinct.obj_iff.mp hd |>.2 _ (Entries.mem_of_get? hstatus))
  subst ha
  simp only [withNulls, same, Bool.and_eq_true, hsame, keepProtocol, keepHost, keepPath, keepQuery,
    same_nulledAt_iff hd habsent, same_nulledPort_iff habsent, true_and]
  constructor
  · rintro ⟨⟨⟨⟨hprotocol, hport⟩, hhost⟩, hpath⟩, hquery⟩
    refine List.eq_nil_iff_forall_not_mem.mpr fun name hm => ?_
    rcases List.mem_cons.mp (hn hm) with rfl | hname
    · exact hprotocol hm
    · simp only [List.mem_cons, List.not_mem_nil, or_false] at hname
      rcases hname with rfl | rfl | rfl | rfl
      · exact hport hm
      · exact hhost hm
      · exact hpath hm
      · exact hquery hm
  · rintro rfl
    simp

/-! ## Documents with nulls -/

theorem mem_optionalMembers_iff {type : ActionType} {config : String} {optional : List String} :
    (type, config, optional) ∈ optionalMembers ↔
      (type = .forward ∧ config = "ForwardConfig" ∧ optional = ["TargetGroups"]) ∨
      (type = .fixedResponse ∧ config = "FixedResponseConfig" ∧
        optional = ["ContentType", "MessageBody"]) ∨
      (type = .redirect ∧ config = "RedirectConfig" ∧
        optional = ["Protocol", "Port", "Host", "Path", "Query"]) := by
  simp [optionalMembers]

/-- Nulls are not added in the place of the type. -/
theorem ne_type_of_optional {type : ActionType} {config : String} {optional : List String}
    (h : (type, config, optional) ∈ optionalMembers) : "Type" ≠ config := by
  rcases mem_optionalMembers_iff.mp h with ⟨-, rfl, -⟩ | ⟨-, rfl, -⟩ | ⟨-, rfl, -⟩ <;> decide

section

variable {settings filledSettings : List (String × Json)} {a : Action}

theorem forwardOf_of_nullsAdded (hs : get? members "ForwardConfig" = some (.obj settings))
    (hf : get? filled "ForwardConfig" = some (.obj filledSettings))
    (ho : ∀ name, name ≠ "ForwardConfig" → get? filled name = get? members name)
    (hadd : NullsAdded names settings filledSettings) :
    forwardOf (.obj filled) = forwardOf (.obj members) := by
  refine forwardOf_congr ?_ ?_
  · rw [configOf_of_get? hf, configOf_of_get? hs, getD_null, getD_null, hadd.given_eq]
  · rw [given, given, ho _ (by decide)]

theorem fixedResponseOf_of_nullsAdded
    (hs : get? members "FixedResponseConfig" = some (.obj settings))
    (hf : get? filled "FixedResponseConfig" = some (.obj filledSettings))
    (hn : "StatusCode" ∉ names) (hadd : NullsAdded names settings filledSettings)
    (h : fixedResponseOf (.obj members) = .ok a) :
    fixedResponseOf (.obj filled) = .ok a ∧ a.withNulls names = a := by
  obtain ⟨status, hstatus, rfl⟩ := (fixedResponseOf_eq_ok_iff hs).mp h
  refine ⟨(fixedResponseOf_eq_ok_iff hf).mpr ⟨status, ?_, ?_⟩, rfl⟩
  · rw [hadd.other _ hn, hstatus]
  · rw [hadd.given_eq, hadd.given_eq]

theorem redirectOf_of_nullsAdded (hd : (Json.obj settings).Distinct)
    (hs : get? members "RedirectConfig" = some (.obj settings))
    (hf : get? filled "RedirectConfig" = some (.obj filledSettings))
    (hn : names ⊆ ["Protocol", "Port", "Host", "Path", "Query"])
    (hadd : NullsAdded names settings filledSettings) (h : redirectOf (.obj members) = .ok a) :
    redirectOf (.obj filled) = .ok (a.withNulls names) ∧
      ((a.withNulls names).same a = true ↔ names = []) := by
  obtain ⟨status, hstatus, ha⟩ := (redirectOf_eq_ok_iff hs).mp h
  refine ⟨(redirectOf_eq_ok_iff hf).mpr ⟨status, ?_, ?_⟩,
    same_withNulls_redirect_iff hd hstatus hn hadd.absent ha⟩
  · rw [hadd.other _ fun hm => absurd (hn hm) (by decide), hstatus]
  · subst ha
    simp only [hadd.getD_eq, withNulls, str_display_nulledAt]

end

/-- A document of an action with nulls for optional members that it leaves out is accepted, too. It
    describes the same action unless it is a redirect, whose components are then null. -/
theorem ofDocument_nulled {type : ActionType} {a : Action} (hd : (Json.obj members).Distinct)
    (ht : get? members "Type" = some (.str type.name)) (h : ofDocument (.obj members) = .ok a)
    (hn : Nulled members filled type names) :
    ofDocument (.obj filled) = .ok (a.withNulls names) ∧
      ((a.withNulls names).same a = true ↔ type ≠ .redirect ∨ names = []) := by
  have hrefl : a.same a = true := (managed_of_ofDocument hd h).same_refl
  have ht' : get? filled "Type" = some (.str type.name) := by
    rw [← ht]
    cases hn with
    | forwardConfig hadd => exact hadd.other "Type" (by decide)
    | config hc _ _ _ ho _ => exact ho "Type" (ne_type_of_optional hc)
  rw [ofDocument_of_type ht] at h
  rw [ofDocument_of_type ht']
  cases hn with
  | forwardConfig hadd =>
    have hread := forwardOf_congr (by rw [configOf, configOf, hadd.given_eq]) (hadd.given_eq _)
    obtain ⟨arn, rfl⟩ := exists_arn_of_forwardOf h
    exact ⟨hread.trans h, iff_of_true hrefl (.inl (by decide))⟩
  | config hc hn hs hf ho hadd =>
    rcases mem_optionalMembers_iff.mp hc with ⟨rfl, rfl, rfl⟩ | ⟨rfl, rfl, rfl⟩ | ⟨rfl, rfl, rfl⟩
    · have hread := forwardOf_of_nullsAdded hs hf ho hadd
      obtain ⟨arn, rfl⟩ := exists_arn_of_forwardOf h
      exact ⟨hread.trans h, iff_of_true hrefl (.inl (by decide))⟩
    · have hstatus : "StatusCode" ∉ names := fun hm => absurd (hn hm) (by decide)
      obtain ⟨hread, hunchanged⟩ := fixedResponseOf_of_nullsAdded hs hf hstatus hadd h
      rw [hunchanged]
      exact ⟨hread, iff_of_true hrefl (.inl (by decide))⟩
    · have hsettings := (Json.distinct_obj_iff.mp hd).2 _ (Entries.mem_of_get? hs)
      obtain ⟨hread, hsame⟩ := redirectOf_of_nullsAdded hsettings hs hf hn hadd h
      exact ⟨hread, hsame.trans (or_iff_right (not_not_intro rfl)).symm⟩

end

/-- A redirect that sets its host only. -/
def hostRedirect : List (String × Json) :=
  [("Type", .str "redirect"),
    ("RedirectConfig", .obj [("StatusCode", .str "HTTP_302"), ("Host", .str "example.org")])]

/-- The same with nulls for the port and the query. -/
def hostRedirectNulled : List (String × Json) :=
  [("Type", .str "redirect"),
    ("RedirectConfig", .obj [("Port", .null), ("StatusCode", .str "HTTP_302"),
      ("Host", .str "example.org"), ("Query", .null)])]

theorem distinct_hostRedirect : (Json.obj hostRedirect).Distinct := by
  simp [hostRedirect, Json.distinct_obj_iff, Entries.Distinct, Entries.names, Json.distinct_str]

theorem nulled_hostRedirect :
    Nulled hostRedirect hostRedirectNulled .redirect ["Port", "Query"] := by
  have hc : (.redirect, "RedirectConfig", ["Protocol", "Port", "Host", "Path", "Query"]) ∈
      optionalMembers := by simp [optionalMembers]
  refine .config hc (by decide) rfl rfl (fun name hname => ?_) ⟨?_, ?_, fun name hname => ?_⟩
  · have hskip (value : Json) : get? [("RedirectConfig", value)] name = none :=
      if_neg hname.symm
    rw [hostRedirectNulled, get?, hskip, hostRedirect, get?, hskip]
  · simp [get?]
  · simp [get?]
  · simp only [List.mem_cons, List.not_mem_nil, or_false, not_or] at hname
    simp [get?, Ne.symm hname.1, Ne.symm hname.2]

theorem ofDocument_nulled_hostRedirect :
    ofDocument (.obj hostRedirectNulled) = .ok (.redirect (.str "HTTP_302") keepProtocol
      (.str "None") (.str "example.org") keepPath .null) ∧
    same (.redirect (.str "HTTP_302") keepProtocol (.str "None") (.str "example.org") keepPath .null)
      (.redirect (.str "HTTP_302") keepProtocol keepPort (.str "example.org") keepPath keepQuery) ≠
        true := by
  obtain ⟨hread, hsame⟩ := ofDocument_nulled (a := .redirect (.str "HTTP_302") keepProtocol keepPort
    (.str "example.org") keepPath keepQuery) distinct_hostRedirect rfl rfl nulled_hostRedirect
  exact ⟨hread, fun h => absurd (hsame.mp h) (by decide)⟩

/-- A redirect whose host is null is not the redirect without a host. -/
theorem redirect_null_host :
    ofDocument (.obj [("Type", .str "redirect"),
      ("RedirectConfig", .obj [("StatusCode", .str "HTTP_301")])]) =
      .ok (.redirect (.str "HTTP_301") keepProtocol keepPort keepHost keepPath keepQuery) ∧
    ofDocument (.obj [("Type", .str "redirect"),
      ("RedirectConfig", .obj [("StatusCode", .str "HTTP_301"), ("Port", .null), ("Host", .null)])]) =
      .ok (.redirect (.str "HTTP_301") keepProtocol (.str "None") .null keepPath keepQuery) ∧
    same (.redirect (.str "HTTP_301") keepProtocol (.str "None") .null keepPath keepQuery)
      (.redirect (.str "HTTP_301") keepProtocol keepPort keepHost keepPath keepQuery) = false :=
  ⟨rfl, rfl, rfl⟩

end AlbListener.Action
