import VpnMiddleware.Core.Paging
import VpnMiddleware.Schema.Types

/-!
# Reading the audit trail

`AuditService.list` counts the rows that match and reads one page of them, in
two statements.  The rows of `admin_audit_logs` are only ever appended; the id
of a row is its number in the table.
-/

namespace VpnMiddleware.AuditService

open VpnMiddleware.Schema VpnMiddleware.Paging

structure AuditLogRow extends AuditLog where
  id : ℕ
  deriving DecidableEq, Repr

structure ListOptions where
  actionType : Option AdminActionType := none
  adminId : Option ℕ := none
  limit : Option ℕ := none
  offset : Option ℕ := none

/-- The rows of the table from the one with a given number on. -/
def tableFrom : ℕ → List AuditLog → List AuditLogRow
  | _, [] => []
  | id, log :: logs => ⟨log, id⟩ :: tableFrom (id + 1) logs

def table (auditLogs : List AuditLog) : List AuditLogRow :=
  tableFrom 0 auditLogs

/-- The where clause of both statements. -/
def isListed (opts : ListOptions) (row : AuditLogRow) : Bool :=
  (opts.actionType.all fun action => row.actionType == action) &&
    opts.adminId.all fun adminId => row.adminId == some adminId

/-- `order by created_at desc`.  PostgreSQL leaves the order of rows of one
instant open; `rank` is the one that a query happens to take. -/
def isNewer (rank : ℕ → ℕ) (left right : AuditLogRow) : Prop :=
  right.createdAt < left.createdAt ∨ right.createdAt = left.createdAt ∧
    (rank left.id < rank right.id ∨
      rank left.id = rank right.id ∧ left.id ≤ right.id)

instance (rank : ℕ → ℕ) : DecidableRel (isNewer rank) := fun left right =>
  inferInstanceAs (Decidable (right.createdAt < left.createdAt ∨
    right.createdAt = left.createdAt ∧ (rank left.id < rank right.id ∨
      rank left.id = rank right.id ∧ left.id ≤ right.id)))

/-- The rows that match, newest first. -/
def listed (opts : ListOptions) (rank : ℕ → ℕ) (auditLogs : List AuditLog) :
    List AuditLogRow :=
  ((table auditLogs).filter (isListed opts)).insertionSort (isNewer rank)

/-- The first statement of `list`. -/
def countLogs (opts : ListOptions) (auditLogs : List AuditLog) : ℕ :=
  (table auditLogs).countP (isListed opts)

/-- The second statement of `list`. -/
def selectLogs (opts : ListOptions) (rank : ℕ → ℕ)
    (auditLogs : List AuditLog) : List AuditLogRow :=
  page (min (max (opts.limit.getD 50) 1) 200) (max (opts.offset.getD 0) 0)
    (listed opts rank auditLogs)

/-! ## The table -/

section Table

variable {opts : ListOptions} {auditLogs : List AuditLog} {log : AuditLog}

theorem tableFrom_append (id : ℕ) :
    tableFrom id (auditLogs ++ [log]) =
      tableFrom id auditLogs ++ [⟨log, id + auditLogs.length⟩] := by
  induction auditLogs generalizing id with
  | nil => rfl
  | cons head auditLogs ih =>
      rw [List.cons_append, tableFrom, ih, tableFrom, List.length_cons,
        Nat.add_right_comm, Nat.add_assoc]
      rfl

theorem ids_tableFrom (id : ℕ) :
    (tableFrom id auditLogs).map AuditLogRow.id =
      List.range' id auditLogs.length := by
  induction auditLogs generalizing id with
  | nil => rfl
  | cons head auditLogs ih =>
      rw [tableFrom, List.map_cons, ih, List.length_cons, List.range'_succ]

theorem nodup_ids_table : ((table auditLogs).map AuditLogRow.id).Nodup := by
  rw [table, ids_tableFrom]
  exact List.nodup_range'

/-! ## The matching rows -/

variable {rank rank' : ℕ → ℕ} {row : AuditLogRow}

instance : Std.Total (isNewer rank) where
  total left right := by
    simp only [isNewer]
    omega

instance : IsTrans AuditLogRow (isNewer rank) where
  trans first second third := by
    simp only [isNewer]
    omega

theorem mem_listed : row ∈ listed opts rank auditLogs ↔
    row ∈ table auditLogs ∧ isListed opts row = true := by
  rw [listed, List.mem_insertionSort, List.mem_filter]

theorem nodup_ids_listed :
    ((listed opts rank auditLogs).map AuditLogRow.id).Nodup := by
  have hperm := (List.perm_insertionSort (isNewer rank)
    ((table auditLogs).filter (isListed opts))).map AuditLogRow.id
  rw [listed, hperm.nodup_iff]
  exact nodup_ids_table.sublist (List.filter_sublist.map _)

/-- A new row of the table does not reorder those that match. -/
theorem listed_sublist_append :
    (listed opts rank auditLogs).Sublist
      (listed opts rank (auditLogs ++ [log])) := by
  rw [listed, listed, table, table, tableFrom_append, List.filter_append]
  rw [List.filter_singleton]
  cases isListed opts ⟨log, 0 + auditLogs.length⟩ with
  | false =>
      simpa only [cond_false, List.append_nil] using List.Sublist.refl _
  | true =>
      rw [cond_true]
      refine insertionSort_sublist_append fun left hleft right hright hle hge => ?_
      have hkeys := @nodup_ids_table (auditLogs ++ [log])
      rw [table, tableFrom_append] at hkeys
      have hmem : ∀ row ∈ (tableFrom 0 auditLogs).filter (isListed opts) ++
          [⟨log, 0 + auditLogs.length⟩], row ∈ tableFrom 0 auditLogs ++
            [⟨log, 0 + auditLogs.length⟩] := fun row hrow =>
        (List.mem_append.mp hrow).elim
          (fun hold => List.mem_append_left _ (List.mem_of_mem_filter hold))
          fun hnew => List.mem_append_right _ hnew
      refine List.inj_on_of_nodup_map hkeys (hmem left hleft)
        (hmem right hright) ?_
      simp only [isNewer] at hle hge
      omega

end Table

end VpnMiddleware.AuditService
