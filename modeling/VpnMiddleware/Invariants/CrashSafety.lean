import VpnMiddleware.Migrations.Migrator

/-!
# Migrations that are killed and run again

A run that was killed leaves the catalog between two files, or inside a file
that runs outside a transaction; a later run goes on from there.  The exception
is the one file with a transaction of its own: its `commit` also ends the
transaction that its bookkeeping insert was to share.
-/

namespace VpnMiddleware.CrashSafety

open VpnMiddleware.SqlSession VpnMiddleware.DataDefinition VpnMiddleware.SqlFiles
open VpnMiddleware.Migrator

/-- The catalog after a file. -/
def applied (file : File) (catalog : Catalog) : Option Catalog :=
  execAll Ddl.exec file.statements catalog

/-- Statements that have been executed do nothing when executed again. -/
def IsReplayable (statements : List Ddl) (catalog : Catalog) : Prop :=
  ∀ count ≤ statements.length, ∀ mid,
    execAll Ddl.exec (statements.take count) catalog = some mid →
      ∀ statement ∈ statements.take count, statement.exec mid = some mid

/-- From a catalog the files lead to another one; what runs outside a
transaction can be repeated, and what has a transaction of its own cannot. -/
inductive Restartable : List File → Catalog → Catalog → Prop
  | nil (catalog : Catalog) : Restartable [] catalog catalog
  | cons {file : File} {files : List File} {catalog after final : Catalog} :
      applied file catalog = some after →
      (addsValue file = true → file.ownTransaction = false ∧
        IsReplayable file.statements catalog) →
      (file.ownTransaction = true → applied file after = none) →
      Restartable files after final →
      Restartable (file :: files) catalog final

/-! ## Statements of a file -/

section Statements

variable {statements : List Ddl} {db : Database} {catalog : Catalog}

theorem execAll_ddl :
    execAll Statement.exec (statements.map .ddl) db =
      (execAll Ddl.exec statements db.catalog).map fun catalog =>
        { db with catalog := catalog } := by
  induction statements generalizing db with
  | nil => rfl
  | cons statement statements ih =>
      simp only [List.map_cons, execAll, Statement.exec]
      cases statement.exec db.catalog with
      | none => rfl
      | some mid =>
          simp only [Option.map_some, Option.bind_some]
          exact ih

/-- Repeating what was executed changes nothing. -/
theorem execAll_replayed
    (hreplay : ∀ statement ∈ statements, statement.exec catalog = some catalog) :
    execAll Ddl.exec statements catalog = some catalog := by
  induction statements with
  | nil => rfl
  | cons statement statements ih =>
      rw [execAll, hreplay statement (by simp), Option.bind_some]
      exact ih fun other hother => hreplay other (List.mem_cons_of_mem _ hother)

/-- Executed anew from where it stopped, a script takes up there. -/
theorem execAll_resumed {count later : ℕ} {mid : Catalog}
    (hreplayable : IsReplayable statements catalog)
    (hcount : count ≤ statements.length)
    (hmid : execAll Ddl.exec (statements.take count) catalog = some mid) :
    execAll Ddl.exec (statements.take later) mid =
      execAll Ddl.exec (statements.take (max count later)) catalog := by
  have hreplay := hreplayable count hcount mid hmid
  rcases Nat.le_total later count with hle | hle
  · rw [Nat.max_eq_left hle, hmid]
    apply execAll_replayed
    intro statement hstatement
    apply hreplay
    exact (List.take_subset_take_left statements hle) hstatement
  · rw [Nat.max_eq_right hle]
    have hsplit := (List.take_append_drop count (statements.take later)).symm
    rw [List.take_take, Nat.min_eq_left hle] at hsplit
    rw [hsplit, execAll_append, execAll_append, execAll_replayed hreplay, hmid]

end Statements

/-! ## One file -/

section Apply

variable {file : File} {catalog after : Catalog} {recorded : List String}
variable {db : Database}

/-- A run may begin the file: nothing of it is there, or a part of it that can
be repeated. -/
structure IsDue (file : File) (catalog : Catalog) (recorded : List String)
    (db : Database) : Prop where
  recorded : db.recorded = recorded
  catalog : db.catalog = catalog ∨ addsValue file = true ∧
    ∃ count ≤ file.statements.length,
      execAll Ddl.exec (file.statements.take count) catalog = some db.catalog

/-- The files so far, and this one. -/
def finished (file : File) (after : Catalog) (recorded : List String) :
    Database :=
  ⟨after, recorded ++ [file.name]⟩

theorem record_exec (hfresh : file.name ∉ db.recorded) :
    (Statement.record file.name).exec db =
      some ⟨db.catalog, db.recorded ++ [file.name]⟩ := by
  simp [Statement.exec, hfresh]

/-- The statements of a due file lead to the catalog after it. -/
theorem IsDue.execAll (hdue : IsDue file catalog recorded db)
    (hafter : applied file catalog = some after)
    (hreplayable : addsValue file = true →
      IsReplayable file.statements catalog) :
    execAll Statement.exec (ddlOf file) db = some ⟨after, recorded⟩ := by
  have hcatalog : SqlSession.execAll Ddl.exec file.statements db.catalog =
      some after := by
    rcases hdue.catalog with hsame | ⟨hadds, count, hcount, hpart⟩
    · rw [hsame]
      exact hafter
    · have hresumed := @execAll_resumed _ _ _ file.statements.length _
        (hreplayable hadds) hcount hpart
      rw [Nat.max_eq_right hcount, List.take_length] at hresumed
      exact hresumed.trans hafter
  rw [ddlOf, execAll_ddl, hcatalog, ← hdue.recorded]
  rfl

/-! ### The three ways to apply a file -/

theorem commandsOf_outside (hadds : addsValue file = true)
    (hown : file.ownTransaction = false) :
    commandsOf file = (ddlOf file).map .run ++
      [.disconnect, .run (.record file.name)] := by
  simp [commandsOf, scriptOf, hadds, hown]

theorem commandsOf_single (hadds : addsValue file = false)
    (hown : file.ownTransaction = false) :
    commandsOf file =
      .begin :: (ddlOf file ++ [Statement.record file.name]).map .run ++
        .commit :: [] := by
  simp [commandsOf, scriptOf, hadds, hown]

theorem commandsOf_own (hadds : addsValue file = false)
    (hown : file.ownTransaction = true) :
    commandsOf file = .begin :: (.begin :: (ddlOf file).map .run ++
      .commit :: [.run (.record file.name), .commit]) := by
  simp [commandsOf, scriptOf, hadds, hown]

/-- A `begin` inside a transaction that has done nothing. -/
theorem executeAll_begin (commands : List (Command Statement)) (db : Database) :
    executeAll (.begin :: .begin :: commands) db =
      executeAll (.begin :: commands) db := rfl

/-! ### Without interruption -/

theorem executeAll_single (hrun : SqlSession.execAll Statement.exec (ddlOf file)
    db = some ⟨after, recorded⟩) (hfresh : file.name ∉ recorded) :
    SqlSession.execAll Statement.exec (ddlOf file ++ [.record file.name]) db =
      some (finished file after recorded) := by
  rw [execAll_append, hrun, Option.bind_some]
  simp [SqlSession.execAll, Statement.exec, hfresh, finished]

/-- A file that is applied without interruption. -/
theorem apply_completes (hdue : IsDue file catalog recorded db)
    (hfresh : file.name ∉ recorded)
    (hafter : applied file catalog = some after)
    (houtside : addsValue file = true → file.ownTransaction = false ∧
      IsReplayable file.statements catalog) :
    executeAll (commandsOf file) db =
      (⟨finished file after recorded, none⟩, true) := by
  have hrun := hdue.execAll hafter fun hadds => (houtside hadds).2
  have hrecord : (Statement.record file.name).exec ⟨after, recorded⟩ =
      some (finished file after recorded) := record_exec hfresh
  cases hadds : addsValue file with
  | true =>
      rw [commandsOf_outside hadds (houtside hadds).1, executeAll,
        execute_outside hrun]
      simp [Session.execute, Session.step, Session.current, Session.write, hrecord]
  | false =>
      cases hown : file.ownTransaction with
      | false =>
          rw [commandsOf_single hadds hown]
          exact execute_transaction (executeAll_single hrun hfresh)
      | true =>
          rw [commandsOf_own hadds hown, List.cons_append, executeAll_begin,
            ← List.cons_append, executeAll, execute_transaction hrun]
          simp [Session.execute, Session.step, Session.current, Session.write,
            hrecord]

/-! ### Killed -/

/-- The gap: after the file's own `commit`, before its insert. -/
def gapOf (file : File) : ℕ := (scriptOf file).length + 1

theorem length_scriptOf (hown : file.ownTransaction = true) :
    gapOf file = (ddlOf file).length + 2 + 1 := by
  simp [gapOf, scriptOf, hown]

/-- A part of a script can be executed if the whole can. -/
theorem exists_execAll_take {statements : List Ddl} {catalog after : Catalog}
    (hafter : SqlSession.execAll Ddl.exec statements catalog = some after)
    (count : ℕ) :
    ∃ mid, SqlSession.execAll Ddl.exec (statements.take count) catalog =
      some mid := by
  rw [← List.take_append_drop count statements, execAll_append] at hafter
  obtain ⟨mid, hmid, -⟩ := Option.bind_eq_some_iff.mp hafter
  exact ⟨mid, hmid⟩

/-- Outside a transaction every statement is kept. -/
theorem IsDue.partway (hdue : IsDue file catalog recorded db)
    (hafter : applied file catalog = some after)
    (hadds : addsValue file = true)
    (hreplayable : IsReplayable file.statements catalog) {count : ℕ}
    (hcount : count ≤ file.statements.length) :
    ∃ mid, SqlSession.execAll Statement.exec ((ddlOf file).take count) db =
      some ⟨mid, recorded⟩ ∧ IsDue file catalog recorded ⟨mid, recorded⟩ := by
  obtain ⟨start, hstart, hpart⟩ : ∃ start ≤ file.statements.length,
      SqlSession.execAll Ddl.exec (file.statements.take start) catalog =
        some db.catalog := by
    rcases hdue.catalog with hsame | ⟨-, hpart⟩
    · exact ⟨0, Nat.zero_le _, congrArg some hsame.symm⟩
    · exact hpart
  obtain ⟨mid, hmid⟩ := exists_execAll_take hafter (max start count)
  have hresumed := @execAll_resumed _ _ _ count _ hreplayable hstart hpart
  refine ⟨mid, ?_, rfl, Or.inr ⟨hadds, max start count,
    Nat.max_le.mpr ⟨hstart, hcount⟩, hmid⟩⟩
  rw [ddlOf, ← List.map_take, execAll_ddl, hresumed, hmid, ← hdue.recorded]
  rfl

/-- The outer `begin` makes no difference to a file with its own. -/
theorem durable_own (hadds : addsValue file = false)
    (hown : file.ownTransaction = true) (count : ℕ) :
    (executeAll ((commandsOf file).take (count + 1)) db).1.durable =
      (executeAll ((Command.begin :: (ddlOf file).map .run ++ Command.commit ::
        [Command.run (Statement.record file.name), Command.commit]).take count)
          db).1.durable := by
  rw [commandsOf_own hadds hown, List.take_succ_cons]
  cases count with
  | zero => rfl
  | succ count => rfl

/-- What a killed run leaves of a file, outside the gap. -/
theorem apply_killed (hdue : IsDue file catalog recorded db)
    (hfresh : file.name ∉ recorded)
    (hafter : applied file catalog = some after)
    (houtside : addsValue file = true → file.ownTransaction = false ∧
      IsReplayable file.statements catalog) {count : ℕ}
    (hgap : file.ownTransaction = true → count ≠ gapOf file) :
    IsDue file catalog recorded
        (executeAll ((commandsOf file).take count) db).1.durable ∨
      (executeAll ((commandsOf file).take count) db).1.durable =
        finished file after recorded := by
  have hrun := hdue.execAll hafter fun hadds => (houtside hadds).2
  have hwhole : (commandsOf file).length ≤ count →
      (executeAll ((commandsOf file).take count) db).1.durable =
        finished file after recorded := by
    intro hcount
    rw [List.take_of_length_le hcount,
      apply_completes hdue hfresh hafter houtside]
  cases hadds : addsValue file with
  | true =>
      obtain ⟨hown, hreplayable⟩ := houtside hadds
      have hcommands := commandsOf_outside hadds hown
      have hlength : (ddlOf file).length = file.statements.length :=
        List.length_map _
      rcases Nat.lt_or_ge file.statements.length count with hlt | hle
      · by_cases hdisconnect : count = (ddlOf file).length + 1
        · left
          have hleft : (executeAll ((commandsOf file).take count) db).1.durable =
              ⟨after, recorded⟩ := by
            rw [hcommands, hdisconnect, ← List.length_map Command.run,
              List.take_length_add_append, executeAll, execute_outside hrun]
            rfl
          rw [hleft]
          refine ⟨rfl, Or.inr ⟨hadds, file.statements.length, Nat.le_refl _, ?_⟩⟩
          rw [List.take_length]
          exact hafter
        · right
          apply hwhole
          rw [hcommands, List.length_append, List.length_map]
          simp only [List.length_cons, List.length_nil]
          omega
      · left
        obtain ⟨mid, hmid, hpart⟩ := hdue.partway hafter hadds hreplayable hle
        rw [hcommands, List.take_append_of_le_length
          (by rw [List.length_map, hlength]; exact hle), executeAll,
          durable_take_outside count hmid]
        exact hpart
  | false =>
      cases hown : file.ownTransaction with
      | false =>
          have hcommands := commandsOf_single hadds hown
          rcases Nat.lt_or_ge (((ddlOf file ++
            [Statement.record file.name]).length) + 1) count with hlt | hle
          · right
            apply hwhole
            rw [hcommands, List.length_append, List.length_cons, List.length_map]
            simp only [List.length_cons, List.length_nil]
            omega
          · left
            rw [hcommands, executeAll, durable_take_transaction hle]
            exact hdue
      | true =>
          rcases Nat.lt_or_ge ((ddlOf file).length + 2) count with hlt | hle
          · right
            obtain ⟨rest, rfl⟩ : ∃ rest,
                count = (ddlOf file).length + 2 + (rest + 1) + 1 := by
              have hother := hgap hown
              rw [length_scriptOf hown] at hother
              exact ⟨count - ((ddlOf file).length + 4), by omega⟩
            rw [durable_own hadds hown, take_transaction, executeAll,
              execute_transaction hrun, List.take_succ_cons]
            have hrecord : (Statement.record file.name).exec ⟨after, recorded⟩ =
                some (finished file after recorded) := record_exec hfresh
            cases rest <;>
              simp [Session.execute, Session.step, Session.current,
                Session.write, hrecord]
          · left
            cases count with
            | zero => exact hdue
            | succ count =>
                rw [durable_own hadds hown, executeAll,
                  durable_take_transaction (by omega)]
                exact hdue

/-- What a run leaves that is killed in the gap. -/
theorem apply_gap (hdue : IsDue file catalog recorded db)
    (hafter : applied file catalog = some after)
    (hadds : addsValue file = false) (hown : file.ownTransaction = true) :
    (executeAll ((commandsOf file).take (gapOf file)) db).1.durable =
      ⟨after, recorded⟩ := by
  have hrun := hdue.execAll hafter fun hother => by
    rw [hadds] at hother
    cases hother
  rw [length_scriptOf hown, durable_own hadds hown]
  have htake := take_transaction (ddlOf file)
    [Command.run (Statement.record file.name), Command.commit] 0
  rw [Nat.add_zero] at htake
  rw [htake, executeAll, execute_transaction hrun]
  rfl

end Apply

/-! ## Whole runs -/

/-- The database of runs that were not killed in the gap: some files are
applied and recorded, and the next one is due. -/
inductive Stands : List File → Catalog → List String → Database → Prop
  | done {catalog : Catalog} {recorded : List String} :
      Stands [] catalog recorded ⟨catalog, recorded⟩
  | due {file : File} {files : List File} {catalog : Catalog}
      {recorded : List String} {db : Database} :
      IsDue file catalog recorded db → Stands (file :: files) catalog recorded db
  | past {file : File} {files : List File} {catalog after : Catalog}
      {recorded : List String} {db : Database} :
      applied file catalog = some after →
      Stands files after (recorded ++ [file.name]) db →
      Stands (file :: files) catalog recorded db

/-- The database of a run that was killed in the gap. -/
inductive Stuck : List File → Catalog → List String → Database → Prop
  | here {file : File} {files : List File} {catalog after : Catalog}
      {recorded : List String} : file.ownTransaction = true →
      applied file catalog = some after →
      Stuck (file :: files) catalog recorded ⟨after, recorded⟩
  | past {file : File} {files : List File} {catalog after : Catalog}
      {recorded : List String} {db : Database} :
      applied file catalog = some after →
      Stuck files after (recorded ++ [file.name]) db →
      Stuck (file :: files) catalog recorded db

/-- The run is killed in the gap of a file that it applies. -/
def HitsGap (files : List File) (kill : Option Kill) (db : Database) : Prop :=
  ∃ file ∈ files, file.ownTransaction = true ∧ file.name ∉ db.recorded ∧
    kill = some ⟨file.name, gapOf file⟩

section Runs

variable {files : List File} {catalog final : Catalog} {recorded : List String}
variable {db : Database}

theorem Stands.subset (hstands : Stands files catalog recorded db) :
    recorded ⊆ db.recorded := by
  induction hstands with
  | done => exact fun _ => id
  | due hdue => exact fun _ hname => hdue.recorded ▸ hname
  | past _ _ ih => exact fun _ hname => ih (List.mem_append_left _ hname)

theorem Stuck.subset (hstuck : Stuck files catalog recorded db) :
    recorded ⊆ db.recorded := by
  induction hstuck with
  | here _ _ => exact fun _ => id
  | past _ _ ih => exact fun _ hname => ih (List.mem_append_left _ hname)

/-! ### The loop over the files -/

section Loop

variable {file : File} {kill : Option Kill}

theorem run_recorded (hrecorded : file.name ∈ db.recorded) :
    run kill (file :: files) db = run kill files db := by
  rw [run, if_pos (List.contains_iff_mem.mpr hrecorded)]

theorem run_applied {db' : Database} {working : Option Database}
    (hfresh : file.name ∉ db.recorded)
    (hkill : (kill.filter fun kill => kill.filename == file.name) = none)
    (hexecute : executeAll (commandsOf file) db = (⟨db', working⟩, true)) :
    run kill (file :: files) db = run kill files db' := by
  rw [run, if_neg (mt List.contains_iff_mem.mp hfresh), hkill, hexecute]

theorem run_failed {db' : Database} {working : Option Database}
    (hfresh : file.name ∉ db.recorded)
    (hkill : (kill.filter fun kill => kill.filename == file.name) = none)
    (hexecute : executeAll (commandsOf file) db = (⟨db', working⟩, false)) :
    run kill (file :: files) db = .failed db' := by
  rw [run, if_neg (mt List.contains_iff_mem.mp hfresh), hkill, hexecute]

theorem run_killed {here : Kill} (hfresh : file.name ∉ db.recorded)
    (hkill : (kill.filter fun kill => kill.filename == file.name) = some here) :
    (run kill (file :: files) db).db =
      (executeAll ((commandsOf file).take here.after) db).1.durable := by
  rw [run, if_neg (mt List.contains_iff_mem.mp hfresh), hkill]
  simp only
  split <;> simp_all [Outcome.db]

theorem kill_here {here : Kill}
    (hkill : (kill.filter fun kill => kill.filename == file.name) = some here) :
    kill = some ⟨file.name, here.after⟩ := by
  obtain ⟨hsome, hname⟩ := Option.filter_eq_some_iff.mp hkill
  rw [hsome, ← eq_of_beq hname]

end Loop

section Names

variable {file : File}

theorem fresh_of_nodup
    (hnames : (recorded ++ (file :: files).map File.name).Nodup) :
    file.name ∉ recorded := by
  intro hrecorded
  exact (List.nodup_append.mp hnames).2.2 _ hrecorded _ (by simp) rfl

theorem nodup_next
    (hnames : (recorded ++ (file :: files).map File.name).Nodup) :
    (recorded ++ [file.name] ++ files.map File.name).Nodup := by
  rw [List.append_assoc]
  exact hnames

theorem Stands.recorded_of_past {after : Catalog}
    (hstands : Stands files after (recorded ++ [file.name]) db) :
    file.name ∈ db.recorded :=
  hstands.subset (by simp)

end Names

/-- Before the first of some files. -/
theorem Stands.start (hrestartable : Restartable files catalog final) :
    Stands files catalog recorded ⟨catalog, recorded⟩ := by
  cases hrestartable with
  | nil => exact .done
  | cons _ _ _ _ => exact .due ⟨rfl, Or.inl rfl⟩

/-- A run that is not killed completes from wherever it stands. -/
theorem run_completes (hrestartable : Restartable files catalog final)
    (hnames : (recorded ++ files.map File.name).Nodup)
    (hstands : Stands files catalog recorded db) :
    run none files db = .completed ⟨final, recorded ++ files.map File.name⟩ := by
  induction hrestartable generalizing recorded db with
  | nil catalog =>
      cases hstands
      rw [List.map_nil, List.append_nil]
      rfl
  | @cons file files catalog after final hafter houtside _ hrest ih =>
      have hlist : recorded ++ (file :: files).map File.name =
          recorded ++ [file.name] ++ files.map File.name := by simp
      rw [hlist]
      cases hstands with
      | due hdue =>
          have hfresh := fresh_of_nodup hnames
          rw [run_applied (hdue.recorded ▸ hfresh) rfl
            (apply_completes hdue hfresh hafter houtside)]
          exact ih (nodup_next hnames) (Stands.start hrest)
      | past hother hstands =>
          cases hother.symm.trans hafter
          rw [run_recorded hstands.recorded_of_past]
          exact ih (nodup_next hnames) hstands

theorem not_hitsGap_next {file : File} {kill : Option Kill} {db' : Database}
    (hgap : ¬ HitsGap (file :: files) kill db)
    (hrecorded : db.recorded ⊆ db'.recorded) : ¬ HitsGap files kill db' := by
  rintro ⟨other, hother, hown, hfresh, hkill⟩
  exact hgap ⟨other, List.mem_cons_of_mem _ hother, hown,
    fun hmem => hfresh (hrecorded hmem), hkill⟩

/-- A run that is killed outside the gap leaves a database to stand on. -/
theorem run_stands (hrestartable : Restartable files catalog final)
    (hnames : (recorded ++ files.map File.name).Nodup)
    (hstands : Stands files catalog recorded db) {kill : Option Kill}
    (hgap : ¬ HitsGap files kill db) :
    Stands files catalog recorded (run kill files db).db := by
  induction hrestartable generalizing recorded db with
  | nil catalog => exact hstands
  | @cons file files catalog after final hafter houtside _ hrest ih =>
      cases hstands with
      | due hdue =>
          have hfresh := fresh_of_nodup hnames
          have hnew : file.name ∉ db.recorded := hdue.recorded ▸ hfresh
          cases hkill : kill.filter fun kill => kill.filename == file.name with
          | none =>
              rw [run_applied hnew hkill
                (apply_completes hdue hfresh hafter houtside)]
              apply Stands.past hafter
              apply ih (nodup_next hnames) (Stands.start hrest)
              apply not_hitsGap_next hgap
              rw [hdue.recorded]
              exact List.subset_append_left _ _
          | some here =>
              rw [run_killed hnew hkill]
              have hother : file.ownTransaction = true →
                  here.after ≠ gapOf file := by
                intro hown hafter
                apply hgap
                refine ⟨file, List.mem_cons_self, hown, hnew, ?_⟩
                rw [kill_here hkill, hafter]
              rcases apply_killed hdue hfresh hafter houtside hother with
                hdue | hfinished
              · exact .due hdue
              · rw [hfinished]
                exact .past hafter (Stands.start hrest)
      | past hother hstands =>
          cases hother.symm.trans hafter
          rw [run_recorded hstands.recorded_of_past]
          apply Stands.past hafter
          exact ih (nodup_next hnames) hstands
            (not_hitsGap_next hgap (List.Subset.refl _))

/-- A run that is killed in the gap is stuck. -/
theorem run_gap (hrestartable : Restartable files catalog final)
    (hnames : (recorded ++ files.map File.name).Nodup)
    (hstands : Stands files catalog recorded db) {kill : Option Kill}
    (hgap : HitsGap files kill db) :
    Stuck files catalog recorded (run kill files db).db := by
  induction hrestartable generalizing recorded db with
  | nil catalog =>
      obtain ⟨_, hnone, -⟩ := hgap
      cases hnone
  | @cons file files catalog after final hafter houtside _ hrest ih =>
      obtain ⟨target, htarget, hown, htargetFresh, rfl⟩ := hgap
      cases hstands with
      | due hdue =>
          have hfresh := fresh_of_nodup hnames
          have hnew : file.name ∉ db.recorded := hdue.recorded ▸ hfresh
          rcases List.mem_cons.mp htarget with rfl | hlater
          · have hadds : addsValue target = false := by
              cases hadds : addsValue target with
              | false => rfl
              | true => exact hown.symm.trans (houtside hadds).1
            rw [run_killed hnew (by simp [Option.filter]; rfl),
              apply_gap hdue hafter hadds hown]
            exact .here hown hafter
          · have hnodup := (List.nodup_append.mp (nodup_next hnames)).2.2
            have hdifferent : target.name ≠ file.name := fun heq =>
              hnodup _ (by simp) _ (List.mem_map_of_mem hlater) heq.symm
            rw [run_applied hnew (by simp [Option.filter, hdifferent])
              (apply_completes hdue hfresh hafter houtside)]
            apply Stuck.past hafter
            apply ih (nodup_next hnames) (Stands.start hrest)
            refine ⟨target, hlater, hown, fun hmem => ?_, rfl⟩
            rcases List.mem_append.mp hmem with hold | hsame
            · exact htargetFresh (hdue.recorded ▸ hold)
            · exact hdifferent (List.mem_singleton.mp hsame)
      | past hother hstands =>
          cases hother.symm.trans hafter
          have hrecorded := hstands.recorded_of_past
          rw [run_recorded hrecorded]
          apply Stuck.past hafter
          apply ih (nodup_next hnames) hstands
          rcases List.mem_cons.mp htarget with rfl | hlater
          · exact absurd hrecorded htargetFresh
          · exact ⟨target, hlater, hown, htargetFresh, rfl⟩

/-- A file that cannot be applied again leaves no trace of the attempt. -/
theorem apply_fails {file : File} (hadds : addsValue file = false)
    (hown : file.ownTransaction = true)
    (hagain : applied file db.catalog = none) :
    (∃ working, executeAll (commandsOf file) db = (⟨db, working⟩, false)) ∧
      ∀ count, (executeAll ((commandsOf file).take count) db).1.durable = db := by
  have hrun : execAll Statement.exec (ddlOf file) db = none := by
    rw [ddlOf, execAll_ddl]
    exact congrArg (Option.map _) hagain
  constructor
  · obtain ⟨working, herror⟩ := @execute_inside_error _ _ _ _
      (Command.commit :: [Command.run (Statement.record file.name),
        Command.commit]) db _ hrun
    refine ⟨some working, ?_⟩
    rw [commandsOf_own hadds hown, List.cons_append, executeAll_begin]
    exact herror
  · intro count
    cases count with
    | zero => rfl
    | succ count =>
        rw [durable_own hadds hown]
        rcases Nat.lt_or_ge ((ddlOf file).length + 1) count with hlt | hle
        · obtain ⟨more, rfl⟩ := Nat.exists_eq_add_of_le hlt
          rw [take_transaction]
          obtain ⟨working, herror⟩ := @execute_inside_error _ _ _ _
            (Command.commit :: [Command.run (Statement.record file.name),
              Command.commit].take more) db _ hrun
          have hend := congrArg (fun result => result.1.durable) herror
          exact hend
        · rw [executeAll, durable_take_transaction hle]

/-- And so is every later one. -/
theorem run_stuck (hrestartable : Restartable files catalog final)
    (hnames : (recorded ++ files.map File.name).Nodup)
    (hstuck : Stuck files catalog recorded db) (kill : Option Kill) :
    (run kill files db).db = db ∧ run none files db = .failed db := by
  induction hrestartable generalizing recorded db with
  | nil catalog => cases hstuck
  | @cons file files catalog after final hafter houtside hagain hrest ih =>
      cases hstuck with
      | here hown hother =>
          cases hother.symm.trans hafter
          have hadds : addsValue file = false := by
            cases hadds : addsValue file with
            | false => rfl
            | true => exact hown.symm.trans (houtside hadds).1
          obtain ⟨⟨working, hfails⟩, hkilled⟩ :=
            @apply_fails ⟨after, recorded⟩ file hadds hown (hagain hown)
          have hnew := fresh_of_nodup hnames
          constructor
          · cases hkill : kill.filter fun kill => kill.filename == file.name with
            | none => rw [run_failed hnew hkill hfails]; rfl
            | some here => rw [run_killed hnew hkill, hkilled]
          · exact run_failed hnew rfl hfails
      | past hother hstuck =>
          cases hother.symm.trans hafter
          have hrecorded : file.name ∈ db.recorded := hstuck.subset (by simp)
          rw [run_recorded hrecorded, run_recorded hrecorded]
          exact ih (nodup_next hnames) hstuck

/-! ## Histories -/

/-- Files that were applied one after the other, each of them once. -/
theorem Restartable.applied (hrestartable : Restartable files catalog final) :
    execAll Ddl.exec (files.flatMap File.statements) catalog = some final := by
  induction hrestartable with
  | nil catalog => rfl
  | cons hafter _ _ _ ih =>
      rw [List.flatMap_cons, execAll_append]
      exact (congrArg (Option.bind · _) hafter).trans ih

/-- No run is killed in the gap. -/
def IsGapFree (files : List File) : List (Option Kill) → Database → Prop
  | [], _ => True
  | kill :: kills, db =>
      ¬ HitsGap files kill db ∧ IsGapFree files kills (run kill files db).db

theorem afterRuns_stuck (hrestartable : Restartable files catalog final)
    (hnames : (recorded ++ files.map File.name).Nodup)
    (hstuck : Stuck files catalog recorded db) (kills : List (Option Kill)) :
    afterRuns files kills db = db := by
  induction kills with
  | nil => rfl
  | cons kill kills ih =>
      rw [afterRuns, (run_stuck hrestartable hnames hstuck kill).1]
      exact ih

/-- Either the runs were never killed in the gap, or the last one fails. -/
theorem completes_iff (hrestartable : Restartable files catalog final)
    (hnames : (recorded ++ files.map File.name).Nodup)
    (hstands : Stands files catalog recorded db) (kills : List (Option Kill)) :
    run none files (afterRuns files kills db) =
        .completed ⟨final, recorded ++ files.map File.name⟩ ↔
      IsGapFree files kills db := by
  induction kills generalizing db with
  | nil => exact iff_of_true (run_completes hrestartable hnames hstands) trivial
  | cons kill kills ih =>
      rw [afterRuns, IsGapFree]
      by_cases hgap : HitsGap files kill db
      · have hstuck := run_gap hrestartable hnames hstands hgap
        rw [afterRuns_stuck hrestartable hnames hstuck,
          (run_stuck hrestartable hnames hstuck none).2]
        constructor
        · intro hcompleted
          cases hcompleted
        · intro hfree
          exact absurd hgap hfree.1
      · rw [ih (run_stands hrestartable hnames hstands hgap), and_iff_right hgap]

end Runs

/-! ## The files of the repository -/

section Checks

variable {statements : List Ddl} {catalog final : Catalog}

def isReplayable (statements : List Ddl) (catalog : Catalog) : Bool :=
  (List.range (statements.length + 1)).all fun count =>
    (execAll Ddl.exec (statements.take count) catalog).all fun mid =>
      (statements.take count).all fun statement =>
        statement.exec mid == some mid

theorem isReplayable_sound (hcheck : isReplayable statements catalog = true) :
    IsReplayable statements catalog := by
  intro count hcount mid hmid statement hstatement
  have hat := List.all_eq_true.mp hcheck count
    (List.mem_range.mpr (Nat.lt_succ_of_le hcount))
  rw [hmid] at hat
  exact eq_of_beq (List.all_eq_true.mp hat statement hstatement)

/-- The catalog after all files, if they can be restarted. -/
def restart : List File → Catalog → Option Catalog
  | [], catalog => some catalog
  | file :: files, catalog =>
      (applied file catalog).bind fun after =>
        if (addsValue file →
              !file.ownTransaction && isReplayable file.statements catalog) ∧
            (file.ownTransaction → (applied file after).isNone)
        then restart files after
        else none

theorem restart_sound {files : List File}
    (hcheck : restart files catalog = some final) :
    Restartable files catalog final := by
  induction files generalizing catalog with
  | nil =>
      cases hcheck
      exact .nil _
  | cons file files ih =>
      obtain ⟨after, hafter, hrest⟩ := Option.bind_eq_some_iff.mp hcheck
      split at hrest
      · next hfile =>
        apply Restartable.cons hafter _ _ (ih hrest)
        · intro hadds
          have hboth := hfile.1 hadds
          rw [Bool.and_eq_true, Bool.not_eq_true'] at hboth
          exact ⟨hboth.1, isReplayable_sound hboth.2⟩
        · intro hown
          exact Option.isNone_iff_eq_none.mp (hfile.2 hown)
      · cases hrest

end Checks

theorem exists_restartable : ∃ final, Restartable files {} final := by
  have hcheck : (restart files {}).isSome = true := by decide +kernel
  obtain ⟨final, hfinal⟩ := Option.isSome_iff_exists.mp hcheck
  exact ⟨final, restart_sound hfinal⟩

theorem nodup_names : (files.map File.name).Nodup := by decide

/-- A run to the end completes: every file has been applied once, and all are
recorded. -/
def Recovers (db : Database) : Prop :=
  ∃ catalog, execAll Ddl.exec (files.flatMap File.statements) {} = some catalog ∧
    run none files db = .completed ⟨catalog, files.map File.name⟩

/-- The runner recovers from any history of killed runs in which none was
killed between the file's own `commit` and the insert that follows it. -/
theorem recovers_iff_gap_free (kills : List (Option Kill)) :
    Recovers (afterRuns files kills {}) ↔ IsGapFree files kills {} := by
  obtain ⟨final, hrestartable⟩ := exists_restartable
  have hcompletes := @completes_iff files {} final [] {} hrestartable
    nodup_names (Stands.start hrestartable) kills
  rw [← hcompletes]
  constructor
  · rintro ⟨catalog, hcatalog, hrun⟩
    cases hcatalog.symm.trans hrestartable.applied
    exact hrun
  · intro hrun
    exact ⟨final, hrestartable.applied, hrun⟩

/-- Killed there once, it never does again. -/
theorem not_recovers_of_gap {kill : Option Kill} (hgap : HitsGap files kill {})
    (kills : List (Option Kill)) :
    ¬ Recovers (afterRuns files (kill :: kills) {}) := by
  obtain ⟨final, hrestartable⟩ := exists_restartable
  have hstuck := @run_gap files {} final [] {} hrestartable nodup_names
    (Stands.start hrestartable) _ hgap
  rintro ⟨catalog, -, hrun⟩
  rw [afterRuns, @afterRuns_stuck files {} final [] _ hrestartable nodup_names
    hstuck, (@run_stuck files {} final [] _ hrestartable nodup_names hstuck
    none).2] at hrun
  cases hrun

theorem killed_after_own_commit :
    ¬ Recovers (afterRuns files
      [some ⟨"0002_time_based_rewards.sql", gapOf timeBasedRewards⟩, none] {}) := by
  apply not_recovers_of_gap
  exact ⟨timeBasedRewards, by simp [files], rfl, by simp, rfl⟩

end VpnMiddleware.CrashSafety
