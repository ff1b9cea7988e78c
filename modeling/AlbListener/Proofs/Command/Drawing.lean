import AlbListener.Command.View
import AlbListener.Proofs.Action.Document
import AlbListener.Proofs.Listener.Drift

/-!
# Drawing drifts

The drifts of a listener are drawn as a table with a row for each of them. A live value that is a
mark would be drawn as a rule instead of its row.

Results:
* `Tabulates.unmarked_eq`: a table of drifts has a row for each of them.
-/

namespace AlbListener

namespace Table

/-- Rows of which none is marked all stay. -/
theorem unmarked_eq {columns : List Column} (h : ∀ mark ∈ marks columns, mark = false)
    (hl : ∀ c ∈ columns, c.cells.length = (marks columns).length) : unmarked columns = columns := by
  have hkept (c : Column) (hc : c ∈ columns) :
      { c with cells := ((c.cells.zip (marks columns)).filter fun cell => !cell.2).map Prod.fst } =
        c := by
    rw [List.filter_eq_self.mpr, List.map_fst_zip (hl c hc).le]
    intro cell hcell
    rw [h cell.2 (List.of_mem_zip hcell).2]
    rfl
  exact (List.map_congr_left hkept).trans (List.map_id _)

end Table

namespace View

/-- A table of drifts, with a row for each of them: its field, the live value and the desired one.
    No live value is a mark. -/
def Tabulates (drifts : List Drift) (table : String) : Prop :=
  ∃ live desired : List Json,
    let columns : List Table.Column := [⟨some "Field", drifts.map fun d => .str d.field⟩,
      ⟨some "Live", live⟩, ⟨some "Desired", desired⟩]
    driftColumns drifts = .ok columns ∧ (∀ value ∈ live, Table.isMark value = false) ∧
      Table.grid columns = .ok table

theorem isMark_field (drift : Drift) : Table.isMark (.str drift.field) = false := by
  have hnames : ∀ name ∈ ["port", "protocol", "certificates", "ssl_policy", "default_actions"],
      Table.isMark (.str name) = false := by decide +kernel
  refine hnames drift.field ?_
  cases drift with
  | _ => simp [Drift.field]

/-- A table of drifts has a row for each of them. -/
theorem Tabulates.unmarked_eq {drifts : List Drift} {table : String} (h : Tabulates drifts table) :
    ∃ columns, Table.unmarked columns = columns ∧ Table.grid columns = .ok table ∧
      columns.head? = some ⟨some "Field", drifts.map fun d => .str d.field⟩ := by
  obtain ⟨live, desired, hcolumns, hmarks, hgrid⟩ := h
  have hlengths : live.length = drifts.length ∧ desired.length = drifts.length := by
    obtain ⟨cells, hcells, hsame⟩ := bind_eq_ok_iff.mp hcolumns
    cases hsame
    rw [List.length_map, List.length_map]
    exact ⟨length_eq_of_mapM hcells, length_eq_of_mapM hcells⟩
  refine ⟨_, Table.unmarked_eq ?_ ?_, hgrid, rfl⟩
  · intro mark hm
    obtain ⟨i, hi, rfl⟩ := List.getElem_of_mem hm
    simp only [Table.marks, List.getElem_zipWith, List.getElem_map, isMark_field,
      hmarks _ (List.getElem_mem _), Bool.or_self]
  · simp [Table.marks, hlengths]

/-- A drift of the protocol. -/
example : (driftColumns [.protocol .https .http] >>= Table.grid).toOption =
    some ("+----------+--------+-----------+\n| Field    | Live   | Desired   |\n"
      ++ "+==========+========+===========+\n| protocol | HTTPS  | HTTP      |\n"
      ++ "+----------+--------+-----------+") := by
  decide +kernel

end View

end AlbListener
