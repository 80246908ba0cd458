import VpnMiddleware.Admin.AuditLog
import VpnMiddleware.Core.TransitionSystem

/-!
# The activity page of the dashboard

The page loads the audit trail in steps of fifty rows while other requests
append to it.  Its own requests may overtake each other; each is two statements
on the server, and each may fail.
-/

namespace VpnMiddleware.AuditPage

open VpnMiddleware.Schema VpnMiddleware.Paging VpnMiddleware.TransitionSystem
open VpnMiddleware.AuditService

def PAGE : ℕ := 50

/-- `ACTION_STYLE[..].label`; the record has no entry for the node actions. -/
def actionStyle : AdminActionType → Option String
  | .banUser => some "BAN"
  | .panicFreeSessions => some "PANIC"
  | .kickSession => some "KICK"
  | .unbanUser => some "UNBAN"
  | .changeTier => some "TIER"
  | .setNodeStatus | .forceMigrateNode => none

/-- The values of `FILTERS`. -/
def filters : List (Option AdminActionType) :=
  [none, some .banUser, some .kickSession, some .panicFreeSessions,
    some .changeTier]

/-- The state of the component. -/
structure Page where
  logs : List AuditLogRow := []
  total : ℕ := 0
  filter : Option AdminActionType := none
  loading : Bool := true
  loadingMore : Bool := false
  error : Option String := none

def Page.hasMore (page : Page) : Bool := page.logs.length < page.total

/-- How far the server is with a request. -/
inductive Stage
  | sent
  | counted (total : ℕ)
  | answered (total : ℕ) (logs : List AuditLogRow)

/-- A `listAudit` in flight, of `loadFirst` or of `loadMore`. -/
structure Fetch where
  isFirst : Bool
  filter : Option AdminActionType
  offset : ℕ
  stage : Stage := .sent

def Fetch.options (fetch : Fetch) : ListOptions where
  actionType := fetch.filter
  limit := some PAGE
  offset := some fetch.offset

/-- The table and the page; a page that failed to render is not mounted. -/
structure State where
  auditLogs : List AuditLog := []
  page : Page := {}
  mounted : Bool := true
  fetches : List Fetch := []

inductive Action
  | record (log : AuditLog)
  | setFilter (filter : Option AdminActionType)
  | refresh
  | loadMore
  | count (i : ℕ)
  | read (i : ℕ) (rank : ℕ → ℕ)
  | deliver (i : ℕ)
  | fail (i : ℕ) (message : Option String)

/-! ## The component -/

def loadFirst (s : State) (filter : Option AdminActionType) : State :=
  { s with
    page := { s.page with filter := filter, loading := true, error := none }
    fetches := s.fetches ++ [⟨true, filter, 0, .sent⟩] }

def loadMore (s : State) : State :=
  { s with
    page := { s.page with loadingMore := true }
    fetches := s.fetches ++
      [⟨false, s.page.filter, s.page.logs.length, .sent⟩] }

/-- The page after a response. -/
def Page.receive (page : Page) (isFirst : Bool) (total : ℕ)
    (logs : List AuditLogRow) : Page :=
  if isFirst then { page with logs := logs, total := total, loading := false }
  else
    { page with
      logs := appendUnseen AuditLogRow.id page.logs logs
      total := total
      loadingMore := false }

/-- The page after a failed request. -/
def Page.catch (page : Page) (isFirst : Bool) (message : Option String) :
    Page :=
  if isFirst then
    { page with
      error := some (message.getD "failed to load audit log")
      loading := false }
  else
    { page with
      error := some (message.getD "failed to load more")
      loadingMore := false }

/-- Every row has a style. -/
def Page.renders (page : Page) : Bool :=
  page.logs.all fun row => (actionStyle row.actionType).isSome

/-- A state update of the component, unless it is gone. -/
def setPage (s : State) (page : Page) : State :=
  if s.mounted then { s with page := page, mounted := page.renders } else s

/-! ## Steps -/

def setStage (s : State) (i : ℕ) (fetch : Fetch) (stage : Stage) : State :=
  { s with fetches := s.fetches.set i { fetch with stage := stage } }

def settle (s : State) (i : ℕ) : State :=
  { s with fetches := s.fetches.eraseIdx i }

def step (s : State) : Action → Option State
  | .record log => some { s with auditLogs := s.auditLogs ++ [log] }
  | .setFilter filter =>
      if s.mounted ∧ filter ∈ filters then
        if filter = s.page.filter then some s else some (loadFirst s filter)
      else none
  | .refresh => if s.mounted then some (loadFirst s s.page.filter) else none
  | .loadMore =>
      if s.mounted ∧ s.page.hasMore ∧ s.page.loading = false ∧
          s.page.loadingMore = false then some (loadMore s)
      else none
  | .count i => s.fetches[i]?.bind fun fetch =>
      match fetch.stage with
      | .sent => some (setStage s i fetch
          (.counted (countLogs fetch.options s.auditLogs)))
      | _ => none
  | .read i rank => s.fetches[i]?.bind fun fetch =>
      match fetch.stage with
      | .counted total => some (setStage s i fetch
          (.answered total (selectLogs fetch.options rank s.auditLogs)))
      | _ => none
  | .deliver i => s.fetches[i]?.bind fun fetch =>
      match fetch.stage with
      | .answered total logs => some (setPage (settle s i)
          (s.page.receive fetch.isFirst total logs))
      | _ => none
  | .fail i message => s.fetches[i]?.map fun fetch =>
      setPage (settle s i) (s.page.catch fetch.isFirst message)

/-- The page has just been mounted. -/
def IsInitial (s : State) : Prop :=
  s.page = {} ∧ s.mounted = true ∧ s.fetches = [⟨true, none, 0, .sent⟩]

def auditPage : System State Action := ⟨IsInitial, step⟩

/-! ## Inversion of a step -/

/-- What a step does. -/
inductive Steps (s : State) : Action → State → Prop
  | recorded (log : AuditLog) :
      Steps s (.record log) { s with auditLogs := s.auditLogs ++ [log] }
  | kept : Steps s (.setFilter s.page.filter) s
  | selected {filter : Option AdminActionType} : filter ≠ s.page.filter →
      Steps s (.setFilter filter) (loadFirst s filter)
  | refreshed : Steps s .refresh (loadFirst s s.page.filter)
  | asked : s.mounted = true → s.page.loading = false →
      s.page.loadingMore = false → Steps s .loadMore (loadMore s)
  | counted {i : ℕ} {fetch : Fetch} : s.fetches[i]? = some fetch →
      fetch.stage = .sent → Steps s (.count i) (setStage s i fetch
        (.counted (countLogs fetch.options s.auditLogs)))
  | read {i : ℕ} {fetch : Fetch} {total : ℕ} (rank : ℕ → ℕ) :
      s.fetches[i]? = some fetch → fetch.stage = .counted total →
      Steps s (.read i rank) (setStage s i fetch
        (.answered total (selectLogs fetch.options rank s.auditLogs)))
  | delivered {i : ℕ} {fetch : Fetch} {total : ℕ} {logs : List AuditLogRow} :
      s.fetches[i]? = some fetch → fetch.stage = .answered total logs →
      Steps s (.deliver i)
        (setPage (settle s i) (s.page.receive fetch.isFirst total logs))
  | failed {i : ℕ} {fetch : Fetch} (message : Option String) :
      s.fetches[i]? = some fetch → Steps s (.fail i message)
        (setPage (settle s i) (s.page.catch fetch.isFirst message))

section Inversion

variable {s s' : State} {act : Action}

theorem steps_of_step (hstep : step s act = some s') : Steps s act s' := by
  cases act with
  | record log =>
      obtain rfl := Option.some.inj hstep
      exact .recorded log
  | setFilter filter =>
      rw [step] at hstep
      split at hstep
      · split at hstep
        · rename_i hsame
          obtain rfl := Option.some.inj hstep
          exact hsame ▸ .kept
        · rename_i hother
          obtain rfl := Option.some.inj hstep
          exact .selected hother
      · cases hstep
  | refresh =>
      rw [step] at hstep
      split at hstep
      · obtain rfl := Option.some.inj hstep
        exact .refreshed
      · cases hstep
  | loadMore =>
      rw [step] at hstep
      split at hstep
      · rename_i henabled
        obtain ⟨hmounted, -, hloading, hmore⟩ := henabled
        obtain rfl := Option.some.inj hstep
        exact .asked hmounted hloading hmore
      · cases hstep
  | count i =>
      obtain ⟨fetch, hfetch, hstep⟩ := Option.bind_eq_some_iff.mp hstep
      split at hstep
      · rename_i hstage
        obtain rfl := Option.some.inj hstep
        exact .counted hfetch hstage
      · cases hstep
  | read i rank =>
      obtain ⟨fetch, hfetch, hstep⟩ := Option.bind_eq_some_iff.mp hstep
      split at hstep
      · rename_i hstage
        obtain rfl := Option.some.inj hstep
        exact .read rank hfetch hstage
      · cases hstep
  | deliver i =>
      obtain ⟨fetch, hfetch, hstep⟩ := Option.bind_eq_some_iff.mp hstep
      split at hstep
      · rename_i hstage
        obtain rfl := Option.some.inj hstep
        exact .delivered hfetch hstage
      · cases hstep
  | fail i message =>
      obtain ⟨fetch, hfetch, rfl⟩ := Option.map_eq_some_iff.mp hstep
      exact .failed message hfetch

end Inversion

/-! ## Rows are shown once -/

/-- Rows of the table, each once. -/
def IsSelection (auditLogs : List AuditLog) (rows : List AuditLogRow) : Prop :=
  (rows.map AuditLogRow.id).Nodup ∧ rows ⊆ table auditLogs

/-- An answer to the request: rows of the table that pass its filter. -/
structure IsAnswer (auditLogs : List AuditLog) (fetch : Fetch)
    (rows : List AuditLogRow) : Prop where
  selection : IsSelection auditLogs rows
  passes : ∀ row ∈ rows, isListed fetch.options row = true

/-- The page has received the row, in the answer to a request whose filter it
passes. -/
def Brought (trace : List (State × Action)) (row : AuditLogRow) : Prop :=
  Earlier trace fun _ state act => ∃ i fetch total logs, act = .deliver i ∧
    state.fetches[i]? = some fetch ∧ fetch.stage = .answered total logs ∧
    row ∈ logs ∧ isListed fetch.options row = true

theorem isAnswer_selectLogs (fetch : Fetch) (rank : ℕ → ℕ)
    (auditLogs : List AuditLog) :
    IsAnswer auditLogs fetch (selectLogs fetch.options rank auditLogs) where
  selection := ⟨nodup_ids_listed.sublist (page_sublist.map _),
    fun _ hrow => (mem_listed.mp (page_sublist.subset hrow)).1⟩
  passes _ hrow := (mem_listed.mp (page_sublist.subset hrow)).2

theorem IsSelection.append {auditLogs : List AuditLog}
    {rows : List AuditLogRow} (hrows : IsSelection auditLogs rows)
    (log : AuditLog) : IsSelection (auditLogs ++ [log]) rows :=
  ⟨hrows.1, fun row hrow => by
    rw [table, tableFrom_append]
    exact List.mem_append_left _ (hrows.2 hrow)⟩

/-- The page shows rows of the table, each once, that requests have brought;
the answers that are on their way are answers to their requests. -/
structure Distinct (trace : List (State × Action)) (s : State) : Prop where
  page : IsSelection s.auditLogs s.page.logs
  brought : ∀ row ∈ s.page.logs, Brought trace row
  fetches : ∀ fetch ∈ s.fetches, ∀ total logs,
    fetch.stage = .answered total logs → IsAnswer s.auditLogs fetch logs

section Distinct

variable {s s' : State} {act : Action} {start last : State}
variable {trace more : List (State × Action)}

theorem Distinct.earlier (hdistinct : Distinct trace s) :
    Distinct (trace ++ more) s :=
  { hdistinct with
    brought := fun row hrow => (hdistinct.brought row hrow).append more }

theorem Distinct.send (hdistinct : Distinct trace s) {fetch : Fetch}
    (hsent : fetch.stage = .sent) : ∀ other ∈ s.fetches ++ [fetch],
      ∀ total logs, other.stage = .answered total logs →
        IsAnswer s.auditLogs other logs := by
  intro other hother total logs hanswered
  rcases List.mem_append.mp hother with hold | hnew
  · exact hdistinct.fetches other hold total logs hanswered
  · rw [List.mem_singleton] at hnew
    rw [hnew, hsent] at hanswered
    cases hanswered

theorem Distinct.setStage (hdistinct : Distinct trace s) {i : ℕ} {fetch : Fetch}
    {stage : Stage} (hstage : ∀ total logs, stage = .answered total logs →
      IsAnswer s.auditLogs fetch logs) :
    Distinct trace (setStage s i fetch stage) := by
  refine ⟨hdistinct.page, hdistinct.brought, ?_⟩
  intro other hother total logs hanswered
  rcases List.mem_or_eq_of_mem_set hother with hold | rfl
  · exact hdistinct.fetches other hold total logs hanswered
  · exact ⟨(hstage total logs hanswered).selection,
      (hstage total logs hanswered).passes⟩

theorem Distinct.setPage (hdistinct : Distinct trace s) (i : ℕ) {page : Page}
    (hpage : IsSelection s.auditLogs page.logs)
    (hbrought : ∀ row ∈ page.logs, Brought trace row) :
    Distinct trace (setPage (settle s i) page) := by
  have hfetches : ∀ fetch ∈ s.fetches.eraseIdx i, ∀ total logs,
      fetch.stage = .answered total logs → IsAnswer s.auditLogs fetch logs :=
    fun fetch hfetch => hdistinct.fetches fetch (List.mem_of_mem_eraseIdx hfetch)
  rw [AuditPage.setPage]
  split
  · exact ⟨hpage, hbrought, hfetches⟩
  · exact ⟨hdistinct.page, hdistinct.brought, hfetches⟩

theorem distinct_step (hbefore : Distinct trace s) (hstep : Steps s act s') :
    Distinct (trace ++ [(s, act)]) s' := by
  have hdistinct : Distinct (trace ++ [(s, act)]) s := hbefore.earlier
  cases hstep with
  | recorded log =>
      exact ⟨hdistinct.page.append log, hdistinct.brought,
        fun fetch hfetch total logs hanswered =>
          have hlogs := hdistinct.fetches fetch hfetch total logs hanswered
          ⟨hlogs.selection.append log, hlogs.passes⟩⟩
  | kept => exact hdistinct
  | selected => exact ⟨hdistinct.page, hdistinct.brought, hdistinct.send rfl⟩
  | refreshed => exact ⟨hdistinct.page, hdistinct.brought, hdistinct.send rfl⟩
  | asked => exact ⟨hdistinct.page, hdistinct.brought, hdistinct.send rfl⟩
  | counted => exact hdistinct.setStage fun total logs hstage => by cases hstage
  | read rank =>
      refine hdistinct.setStage fun total logs hstage => ?_
      cases hstage
      exact isAnswer_selectLogs _ _ _
  | @delivered i fetch total logs hfetch hstage =>
      have hlogs := hdistinct.fetches fetch
        (List.mem_of_getElem? hfetch) total logs hstage
      have hbrought : ∀ row ∈ logs, Brought (trace ++ [(s, .deliver i)]) row :=
        fun row hrow => Earlier.last ⟨i, fetch, total, logs, rfl, hfetch, hstage,
          hrow, hlogs.passes row hrow⟩
      rw [Page.receive]
      split
      · exact hdistinct.setPage i hlogs.selection hbrought
      · refine hdistinct.setPage i ?_ fun row hrow => ?_
        · exact ⟨nodup_appendUnseen hdistinct.page.1 hlogs.selection.1,
            appendUnseen_subset hdistinct.page.2 hlogs.selection.2⟩
        · exact (mem_appendUnseen.mp hrow).elim (hdistinct.brought row)
            fun hnew => hbrought row hnew.1
  | @failed i fetch message hfetch =>
      rw [Page.catch]
      split <;> exact hdistinct.setPage i hdistinct.page hdistinct.brought

/-- However loads overtake each other, fail, and the table grows, the page
shows rows of the table and none of them twice, and each was brought by a
request whose filter it passes. -/
theorem shows_once (hrun : Run auditPage start trace last)
    (hinit : IsInitial start) :
    (last.page.logs.map AuditLogRow.id).Nodup ∧
      ∀ row ∈ last.page.logs, row ∈ table last.auditLogs ∧ Brought trace row := by
  have hstart : Distinct [] start := by
    obtain ⟨hpage, -, hfetches⟩ := hinit
    refine ⟨?_, fun row hrow => ?_, fun fetch hfetch total logs hanswered => ?_⟩
    · rw [hpage]
      exact ⟨List.nodup_nil, List.nil_subset _⟩
    · rw [hpage] at hrow
      cases hrow
    · rw [hfetches, List.mem_singleton] at hfetch
      rw [hfetch] at hanswered
      cases hanswered
  have hlast : Distinct trace last := hrun.induction_on hstart
    fun _ _ _ _ hdistinct hstep => distinct_step hdistinct (steps_of_step hstep)
  exact ⟨hlast.page.1, fun row hrow => ⟨hlast.page.2 hrow, hlast.brought row hrow⟩⟩

end Distinct

/-- A row of `admin_audit_logs`. -/
def kickedAt (createdAt : ℕ) : AuditLog where
  adminId := some 1
  actionType := .kickSession
  targetId := some 7
  details := 0
  ipAddress := none
  createdAt := createdAt

/-- A page that loads its first rows. -/
def opened : State where
  auditLogs := [kickedAt 1, kickedAt 2]
  fetches := [⟨true, none, 0, .sent⟩]

/-- A third row arrives before the answer, and a refresh overtakes it. -/
theorem shows_once_overtaken : ∃ last trace, Run auditPage opened trace last ∧
    (last.page.logs.map AuditLogRow.id).Nodup ∧
    (∀ row ∈ last.page.logs, row ∈ table last.auditLogs ∧ Brought trace row) ∧
    last.page.logs.length = 2 := by
  obtain ⟨last, hrun, hlength⟩ := @exists_run_with _ _ auditPage opened
    [.count 0, .read 0 id, .record (kickedAt 3), .refresh, .count 1, .read 1 id,
      .deliver 1, .deliver 0]
    (fun last => last.page.logs.length = 2) _ (by decide)
  obtain ⟨hnodup, hrows⟩ := shows_once hrun ⟨rfl, rfl, rfl⟩
  exact ⟨last, _, hrun, hnodup, hrows, hlength⟩

/-! ## A walk leaves no gap -/

/-- The rows that the selected filter lets through, newest first. -/
def log (filter : Option AdminActionType) (s : State) : List AuditLogRow :=
  listed { actionType := filter } id s.auditLogs

/-- The page shows rows that pass the filter, and of `rows` all that stand in
front of its offset. -/
structure Shows (rows : List AuditLogRow) (filter : Option AdminActionType)
    (s : State) : Prop where
  selected : s.page.filter = filter
  distinct : (s.page.logs.map AuditLogRow.id).Nodup
  subset : s.page.logs ⊆ log filter s
  covers : Covers rows (log filter s) s.page.logs

/-- An answer to `loadMore` was read when the page showed what it shows now. -/
def IsNextPage (rows : List AuditLogRow) (filter : Option AdminActionType)
    (s : State) (logs : List AuditLogRow) : Prop :=
  ∃ read : List AuditLogRow, logs = page PAGE s.page.logs.length read ∧
    (read.map AuditLogRow.id).Nodup ∧ read.Sublist (log filter s) ∧
    s.page.logs ⊆ read ∧ Covers rows read s.page.logs

section Walk

variable {s s' last : State} {act : Action} {rows : List AuditLogRow}
variable {filter : Option AdminActionType}
variable {after : List (State × Action)}

theorem log_append (s : State) (entry : AuditLog) :
    (log filter s).Sublist
      (log filter { s with auditLogs := s.auditLogs ++ [entry] }) :=
  listed_sublist_append

theorem Shows.grow (hshows : Shows rows filter s) (entry : AuditLog) :
    Shows rows filter { s with auditLogs := s.auditLogs ++ [entry] } where
  selected := hshows.selected
  distinct := hshows.distinct
  subset := List.Subset.trans hshows.subset (log_append s entry).subset
  covers := hshows.covers.grow (log_append s entry)

theorem IsNextPage.grow {logs : List AuditLogRow}
    (hnext : IsNextPage rows filter s logs) (entry : AuditLog) :
    IsNextPage rows filter
      { s with auditLogs := s.auditLogs ++ [entry] } logs := by
  obtain ⟨read, hlogs, hkeys, hread, hsubset, hcovers⟩ := hnext
  exact ⟨read, hlogs, hkeys, hread.trans (log_append s entry), hsubset, hcovers⟩

/-- The page after the answer to `loadMore`. -/
theorem Shows.receive (hshows : Shows rows filter s) {total : ℕ}
    {logs : List AuditLogRow} (hnext : IsNextPage rows filter s logs) :
    Shows rows filter { s with
      page := s.page.receive false total logs
      mounted := (s.page.receive false total logs).renders
      fetches := [] } := by
  obtain ⟨read, rfl, hkeys, hread, hsubset, hcovers⟩ := hnext
  have hmore : page PAGE s.page.logs.length read ⊆ read := page_sublist.subset
  exact
    { selected := hshows.selected
      distinct := nodup_appendUnseen hshows.distinct
        (hkeys.sublist (page_sublist.map _))
      subset := List.Subset.trans
        (appendUnseen_subset hsubset hmore) hread.subset
      covers := (hcovers.next hkeys hsubset).grow hread }

theorem mounted_of_setPage {i : ℕ} {page : Page}
    (hmounted : (setPage (settle s i) page).mounted = true) :
    s.mounted = true ∧ setPage (settle s i) page =
      { s with
        page := page
        mounted := page.renders
        fetches := s.fetches.eraseIdx i } := by
  by_cases hs : (settle s i).mounted = true
  · rw [setPage, if_pos hs]
    exact ⟨hs, rfl⟩
  · rw [setPage, if_neg hs] at hmounted
    exact absurd hmounted hs

theorem Steps.mounted (hstep : Steps s act s') (hmounted : s'.mounted = true) :
    s.mounted = true := by
  cases hstep with
  | delivered => exact (mounted_of_setPage hmounted).1
  | failed => exact (mounted_of_setPage hmounted).1
  | _ => exact hmounted

end Walk

/-- A page whose first rows have been counted. -/
def counted : State where
  auditLogs := [kickedAt 1, kickedAt 2]
  fetches := [⟨true, none, 0, .counted 2⟩]

end VpnMiddleware.AuditPage
