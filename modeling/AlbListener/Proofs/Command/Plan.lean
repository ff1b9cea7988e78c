import AlbListener.Proofs.Command.Drawing
import AlbListener.Proofs.Command.Loading

/-!
# What a plan replies

A plan works the desired listener out, describes the live one and compares the two. It announces
a listener, finds the live one up to date, or draws its drift.

Results:
* `planned_unbuilt`, `planned_built`: how a plan ends, from whether the desired listener is worked
  out.
* `forecastReply_drifts`: a drift is drawn, or the plan stops because it cannot be.
* `createNotice_ne_currentNotice`, `createNotice_ne_driftNotice`, `currentNotice_ne_driftNotice`:
  the replies tell what was found.
-/

namespace AlbListener.Command

variable {σ : Type} {world : World σ} {file : File} {s : σ}
variable {settings : Settings} {request : Request} {config : ListenerConfig} {live : Listener}
variable {live? : Option Listener} {drifts : List Drift}

/-- The reply of a plan that finds no listener. -/
def createNotice (request : Request) (config : ListenerConfig) : Reply :=
  ⟨"No listener on port " ++ request.port.port.display ++ ": a " ++ config.protocol.name
    ++ " listener will be created\n", .done⟩

/-- The reply of a plan that finds no drift. -/
def currentNotice (live : Listener) : Reply :=
  ⟨"✓ Listener " ++ live.arn.display ++ " is up to date\n", .done⟩

/-- The first line of a plan that finds drift. -/
def driftHead (live : Listener) : String :=
  "Listener " ++ live.arn.display ++ " will be modified:\n"

/-- The reply of a plan that finds drift, and draws it. -/
def driftNotice (live : Listener) (table : String) : Reply :=
  ⟨driftHead live ++ table ++ "\n", .done⟩

/-- What a plan replies once the live listener is described. -/
def forecast (request : Request) (config : ListenerConfig) :
    Option Listener → Session σ Reply
  | none => return createNotice request config
  | some live => do
    let drifts ← Session.reading "" (live.drifts config)
    if drifts.isEmpty then return currentNotice live
    else
      let columns ← Session.reading "" (View.driftColumns drifts)
      let table ← Session.reading (driftHead live) (Table.grid columns)
      return driftNotice live table

/-- A plan works the desired listener out before it describes the live one. -/
theorem showDrift_eq (world : World σ) (file : File) :
    showDrift world file =
      loadSettings world >>= fun settings => loadRequest settings file >>= fun request =>
        desired request >>= fun config =>
          liftM (world.cloud.describe request.loadBalancerArn request.port.port).attempt >>=
            fun described => Session.settle providerWords "" described >>=
              forecast request config := rfl

/-- What is replied to a plan. -/
def planned (world : World σ) (file : File) (s : σ) : Reply :=
  Session.replyOf ((showDrift world file).ending s).1

theorem planned_unbuilt (h : Loads world file s settings request) {failure : Failure}
    (hb : request.build = .error failure) :
    planned world file s = ⟨"", Session.stopped reconcileWords (.failed failure)⟩ := by
  have hdesired : (desired request : Session σ ListenerConfig).ending s =
      (.ok (.error ⟨"", Session.stopped reconcileWords (.failed failure)⟩), s) := by
    rw [desired, hb]
    show Session.ending (Session.settle _ _ (.error (.failed failure))) s = _
    rw [Session.settle_error]
    rfl
  rw [planned, showDrift_eq, ending_loaded h, Session.ending_bind_of_reply _ hdesired]
  rfl

theorem planned_built (h : Loads world file s settings request)
    (hb : request.build = .ok config)
    (hdescribe : (world.cloud.describe request.loadBalancerArn request.port.port).ending s =
      (.ok live?, s)) :
    planned world file s =
      Session.replyOf ((forecast request config live?).ending s).1 := by
  have hdesired : (desired request : Session σ ListenerConfig).ending s =
      (.ok (.ok config), s) := by
    rw [desired, hb]
    rfl
  have hattempt := Run.ending_attempt
    (world.cloud.describe request.loadBalancerArn request.port.port) s
  rw [hdescribe] at hattempt
  rw [planned, showDrift_eq, ending_loaded h, Session.ending_bind_of_ok _ hdesired,
    Session.ending_bind_of_ok _ (Session.ending_lift hattempt)]
  rfl

/-- What is replied once the live listener is described. -/
def forecastReply (request : Request) (config : ListenerConfig) (live? : Option Listener)
    (s : σ) : Reply :=
  Session.replyOf ((forecast request config live?).ending s).1

theorem ending_reading {α : Type} (output : String) (step : Except Fault α) (s : σ) :
    (Session.reading output step : Session σ α).ending s =
      (.ok (step.mapError fun fault => ⟨output, .stopped (Stop.ofFault fault)⟩), s) := by
  cases step with
  | ok value => rfl
  | error fault => rfl

theorem forecastReply_breaks {fault : Fault} (hd : live.drifts config = .error fault) :
    forecastReply request config (some live) s = ⟨"", .stopped (Stop.ofFault fault)⟩ := by
  have hread := ending_reading "" (live.drifts config) s
  rw [hd] at hread
  rw [forecastReply, forecast, hd, Session.ending_bind_of_reply _ hread]
  rfl

theorem forecastReply_keeps (hd : live.drifts config = .ok []) :
    forecastReply request config (some live) s = currentNotice live := by
  have hread := ending_reading "" (live.drifts config) s
  rw [hd] at hread
  rw [forecastReply, forecast, hd, Session.ending_bind_of_ok _ hread]
  rfl

theorem forecast_of_drifts (hd : live.drifts config = .ok drifts) (hne : drifts ≠ []) :
    (forecast request config (some live)).ending s =
      (Session.reading "" (View.driftColumns drifts) >>= fun columns =>
        Session.reading (driftHead live) (Table.grid columns) >>= fun table =>
          pure (driftNotice live table)).ending s := by
  have hread := ending_reading "" (live.drifts config) s
  have hempty : ¬drifts.isEmpty = true := fun h => hne (List.isEmpty_iff.mp h)
  rw [hd] at hread
  rw [forecast, hd, Session.ending_bind_of_ok _ hread, if_neg hempty]

/-- A plan stops at a drift that has no columns. -/
theorem forecastReply_unshown {fault : Fault} (hd : live.drifts config = .ok drifts)
    (hne : drifts ≠ []) (hc : View.driftColumns drifts = .error fault) :
    forecastReply request config (some live) s = ⟨"", .stopped (Stop.ofFault fault)⟩ := by
  have hcolumns := ending_reading "" (View.driftColumns drifts) s
  rw [hc] at hcolumns
  rw [forecastReply, forecast_of_drifts hd hne, hc, Session.ending_bind_of_reply _ hcolumns]
  rfl

/-- A drift is drawn, or the plan stops because it cannot be. -/
theorem forecastReply_drifts (hd : live.drifts config = .ok drifts) (hne : drifts ≠ []) :
    (∃ columns table, View.driftColumns drifts = .ok columns ∧ Table.grid columns = .ok table ∧
      forecastReply request config (some live) s = driftNotice live table) ∨
    ((∀ columns table, View.driftColumns drifts = .ok columns → Table.grid columns ≠ .ok table) ∧
      ∃ output reason, forecastReply request config (some live) s =
        ⟨output, .stopped reason⟩) := by
  rcases hc : View.driftColumns drifts with fault | columns
  · exact .inr ⟨nofun, _, _, forecastReply_unshown hd hne hc⟩
  have hcolumns := ending_reading "" (View.driftColumns drifts) s
  have htable := ending_reading (driftHead live) (Table.grid columns) s
  rw [hc] at hcolumns
  rw [forecastReply, forecast_of_drifts hd hne, hc, Session.ending_bind_of_ok _ hcolumns]
  rcases ht : Table.grid columns with fault | table
  · rw [ht] at htable
    rw [Session.ending_bind_of_reply _ htable]
    refine .inr ⟨fun columns' table hcolumns' htable' => ?_, _, _, rfl⟩
    cases hcolumns'
    cases ht.symm.trans htable'
  · rw [ht] at htable
    rw [Session.ending_bind_of_ok _ htable]
    exact .inl ⟨columns, table, rfl, ht, rfl⟩

/-! ## Telling the replies apart -/

/-- The character that a reply starts with. -/
def mark (reply : Reply) : Option Char := reply.output.toList.head?

theorem head?_append {s : String} {c : Char} (t : String) (h : s.toList.head? = some c) :
    (s ++ t).toList.head? = some c := by
  rw [String.toList_append, List.head?_append, h]
  rfl

theorem mark_createNotice : mark (createNotice request config) = some 'N' :=
  head?_append _ (head?_append _ (head?_append _ (head?_append _ (by decide))))

theorem mark_currentNotice : mark (currentNotice live) = some '✓' :=
  head?_append _ (head?_append _ (by decide))

theorem mark_driftNotice (table : String) : mark (driftNotice live table) = some 'L' :=
  head?_append _ (head?_append _ (head?_append _ (head?_append _ (by decide))))

theorem createNotice_ne_currentNotice : createNotice request config ≠ currentNotice live := by
  intro hsame
  have hmark := congrArg mark hsame
  rw [mark_createNotice, mark_currentNotice] at hmark
  exact absurd hmark (by decide)

theorem createNotice_ne_driftNotice (table : String) :
    createNotice request config ≠ driftNotice live table := by
  intro hsame
  have hmark := congrArg mark hsame
  rw [mark_createNotice, mark_driftNotice] at hmark
  exact absurd hmark (by decide)

theorem currentNotice_ne_driftNotice {live' : Listener} (table : String) :
    currentNotice live ≠ driftNotice live' table := by
  intro hsame
  have hmark := congrArg mark hsame
  rw [mark_currentNotice, mark_driftNotice] at hmark
  exact absurd hmark (by decide)

end AlbListener.Command
