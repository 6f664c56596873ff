import PocketSql.Proofs.Sessions.Shared
import PocketSql.Proofs.Store.Frame
/-!
# Sessions on disjoint tables

A session does not notice other sessions that name none of its tables. What it would come to if it
had the store to itself from now on, its `finish`, stays the same with every turn: its own turns
only carry out what is part of it, and the turns of others leave alone what it depends on. When all
sessions are done each of them has therefore come to what it comes to alone.

That is so for any number of sessions (`answers_of_disjoint`). Of two sessions it follows that a run
in any order of turns is the run of one script after the other, in either order.
-/

namespace PocketSql

theorem Progress.finish_congr {progress : Progress} {names : List String} {a b : Store}
    (h : Store.Agree names a b) (hnames : Script.tableNames progress.rest ⊆ names) :
    (progress.finish a).1 = (progress.finish b).1 ∧
      Store.Agree names (progress.finish a).2 (progress.finish b).2 := by
  rw [finish, finish]
  cases progress.answers with
  | error error => exact ⟨rfl, h⟩
  | ok answers =>
      obtain ⟨hanswer, hagree⟩ := h.executeAll hnames
      exact ⟨congrArg (Except.map (answers ++ ·)) hanswer, hagree⟩

namespace Sessions

variable {ι : Type} {store : Store} {scripts : ι → Script} {sessions : Sessions ι Store}

/-- Every session is about to come to what its script comes to alone, and tables that no script
names are as they were. -/
structure Apart (store : Store) (scripts : ι → Script) (sessions : Sessions ι Store) : Prop where
  inside : ∀ i, Script.tableNames (sessions.progress i).rest ⊆ (scripts i).tableNames
  answers : ∀ i, ((sessions.progress i).finish sessions.state).1 =
    (Engine.executeAll store (scripts i)).answer
  tables : ∀ i, Store.Agree (scripts i).tableNames
    ((sessions.progress i).finish sessions.state).2 (Engine.executeAll store (scripts i)).state
  untouched : ∀ name, (∀ i, name ∉ (scripts i).tableNames) →
    sessions.state.table? name = store.table? name

theorem apart_start (store : Store) (scripts : ι → Script) :
    Apart store scripts (start store scripts) where
  inside i := List.Subset.refl _
  answers i := by rw [start, Progress.finish_start]
  tables i name _ := by rw [start, Progress.finish_start]
  untouched name _ := rfl

variable [DecidableEq ι] {i : ι} {answers : List Answer} {statement : Statement} {rest : Script}

/-- What a session comes to does not change with a turn of its own, nor with a turn of another
session on a table that is none of its own. -/
theorem finish_advance_congr {j : ι} {names : List String}
    (hanswers : (sessions.progress i).answers = .ok answers)
    (hrest : (sessions.progress i).rest = statement :: rest)
    (hnames : Script.tableNames (sessions.progress j).rest ⊆ names)
    (hname : j ≠ i → statement.tableName ∉ names) :
    let next := sessions.advance i answers statement rest
    ((next.progress j).finish next.state).1 = ((sessions.progress j).finish sessions.state).1 ∧
      Store.Agree names ((next.progress j).finish next.state).2
        ((sessions.progress j).finish sessions.state).2 := by
  intro next
  by_cases hj : j = i
  · subst hj
    have hown : (next.progress j).finish next.state =
        (sessions.progress j).finish sessions.state := finish_advance hanswers hrest
    rw [hown]
    exact ⟨rfl, fun _ _ => rfl⟩
  · have hother : next.progress j = sessions.progress j :=
      progress_advance_of_ne hj sessions answers statement rest
    rw [hother]
    apply Progress.finish_congr _ hnames
    intro name hmem
    apply Store.table?_execute_of_ne
    rintro rfl
    exact hname hj hmem

theorem Apart.advance (h : Apart store scripts sessions)
    (hdisjoint : ∀ i j, i ≠ j → (scripts i).tableNames.Disjoint (scripts j).tableNames)
    (hanswers : (sessions.progress i).answers = .ok answers)
    (hrest : (sessions.progress i).rest = statement :: rest) :
    Apart store scripts (sessions.advance i answers statement rest) := by
  have hname : statement.tableName ∈ (scripts i).tableNames := by
    apply h.inside i
    rw [hrest]
    exact List.mem_cons_self
  have hfinish (j : ι) := finish_advance_congr hanswers hrest (h.inside j)
    fun hj hmem => hdisjoint i j (Ne.symm hj) hname hmem
  constructor
  · intro j
    apply List.Subset.trans _ (h.inside j)
    exact List.map_subset Statement.tableName (rest_advance_subset hrest j)
  · exact fun j => (hfinish j).1.trans (h.answers j)
  · exact fun j name hmem => ((hfinish j).2 name hmem).trans (h.tables j name hmem)
  · intro name hno
    have hne : statement.tableName ≠ name := by
      rintro rfl
      exact hno i hname
    exact (Store.table?_execute_of_ne sessions.state hne).trans (h.untouched name hno)

theorem apart_run (store : Store)
    (hdisjoint : ∀ i j, i ≠ j → (scripts i).tableNames.Disjoint (scripts j).tableNames)
    (turns : List ι) : Apart store scripts ((start store scripts).run turns) :=
  run_induction (P := Apart store scripts) (apart_start store scripts)
    (fun h hanswers hrest => h.advance hdisjoint hanswers hrest) turns

/-- **Sessions on disjoint tables do not interfere.** Each gives the answers or the error that it
gives alone, and leaves its tables as it leaves them alone. -/
theorem answers_of_disjoint (store : Store)
    (hdisjoint : ∀ i j, i ≠ j → (scripts i).tableNames.Disjoint (scripts j).tableNames)
    {turns : List ι} (hdone : ∀ i, (((start store scripts).run turns).progress i).Done) :
    let last := (start store scripts).run turns
    (∀ i, (last.progress i).answers = (Engine.executeAll store (scripts i)).answer) ∧
    (∀ i, Store.Agree (scripts i).tableNames last.state
      (Engine.executeAll store (scripts i)).state) ∧
    ∀ name, (∀ i, name ∉ (scripts i).tableNames) →
      last.state.table? name = store.table? name := by
  intro last
  have hapart : Apart store scripts last := apart_run store hdisjoint turns
  refine ⟨fun i => ?_, fun i => ?_, hapart.untouched⟩
  · rw [← hapart.answers i, Progress.finish_of_done (hdone i)]
  · have htables := hapart.tables i
    rwa [Progress.finish_of_done (hdone i)] at htables

end Sessions

/-! ### Two scripts, one after the other -/

namespace Store

variable {first second : Script}

/-- A script leaves the tables of the other as they were. -/
theorem agree_executeAll_of_disjoint (store : Store)
    (h : first.tableNames.Disjoint second.tableNames) :
    Agree second.tableNames (Engine.executeAll store first).state store :=
  fun _ hmem => table?_executeAll_of_not_mem store fun hfirst => h hfirst hmem

theorem answer_executeAll_of_disjoint (store : Store)
    (h : first.tableNames.Disjoint second.tableNames) :
    (Engine.executeAll (Engine.executeAll store first).state second).answer =
      (Engine.executeAll store second).answer :=
  ((agree_executeAll_of_disjoint store h).executeAll (List.Subset.refl _)).1

/-- A store that is as each of two scripts leaves it, each script on its own tables, is the store
after the one and then the other. -/
theorem eq_executeAll_of_disjoint {store last : Store}
    (h : first.tableNames.Disjoint second.tableNames)
    (hfirst : Agree first.tableNames last (Engine.executeAll store first).state)
    (hsecond : Agree second.tableNames last (Engine.executeAll store second).state)
    (huntouched : ∀ name, name ∉ first.tableNames → name ∉ second.tableNames →
      last.table? name = store.table? name) :
    last = (Engine.executeAll (Engine.executeAll store first).state second).state := by
  apply ext_table?
  intro name
  by_cases hmem : name ∈ second.tableNames
  · have hagree := (agree_executeAll_of_disjoint store h).executeAll (List.Subset.refl _)
    rw [hagree.2 name hmem]
    exact hsecond name hmem
  · rw [table?_executeAll_of_not_mem _ hmem]
    by_cases hmem' : name ∈ first.tableNames
    · exact hfirst name hmem'
    · rw [table?_executeAll_of_not_mem _ hmem']
      exact huntouched name hmem' hmem

end Store

namespace Shared

/-- **Two scripts on disjoint tables can be run in any order.** Two sessions take turns on a shared
store until both are done. Each has then given the answers or the error that it gives when the first
script runs as a whole and then the second, and when the second runs and then the first, and the
store is the same as well. -/
theorem run_of_disjoint (store : Store) {first second : Script}
    (hdisjoint : first.tableNames.Disjoint second.tableNames) (turns : List (Fin 2)) :
    let shared : Shared Store := { inner := store, poisoned := false }
    let last := (Sessions.start shared ![first, second]).run turns
    (∀ i, (last.progress i).Done) →
      (let one := Engine.executeAll shared first
       let two := Engine.executeAll one.state second
       (last.progress 0).answers = one.answer ∧ (last.progress 1).answers = two.answer ∧
         last.state = two.state) ∧
      (let two := Engine.executeAll shared second
       let one := Engine.executeAll two.state first
       (last.progress 0).answers = one.answer ∧ (last.progress 1).answers = two.answer ∧
         last.state = one.state) := by
  intro shared last hdone
  let plain := (Sessions.start store ![first, second]).run turns
  have hlast : last = plain.shared :=
    Sessions.run_shared (Sessions.start store ![first, second]) turns
  rw [hlast] at hdone ⊢
  have hdisjoint' := List.disjoint_symm hdisjoint
  have hpair : ∀ i j : Fin 2, i ≠ j → List.Disjoint (Script.tableNames (![first, second] i))
      (Script.tableNames (![first, second] j)) :=
    Fin.forall_fin_two.mpr
      ⟨Fin.forall_fin_two.mpr ⟨fun h => absurd rfl h, fun _ => hdisjoint⟩,
        Fin.forall_fin_two.mpr ⟨fun _ => hdisjoint', fun h => absurd rfl h⟩⟩
  obtain ⟨hanswers, htables, huntouched⟩ := Sessions.answers_of_disjoint store hpair hdone
  have hfirst : (plain.progress 0).answers = (Engine.executeAll store first).answer := hanswers 0
  have hsecond : (plain.progress 1).answers = (Engine.executeAll store second).answer := hanswers 1
  have hnone (name : String) (hno : name ∉ first.tableNames) (hno' : name ∉ second.tableNames) :
      plain.state.table? name = store.table? name :=
    huntouched name (Fin.forall_fin_two.mpr ⟨hno, hno'⟩)
  simp only [shared, executeAll_shared]
  refine ⟨⟨hfirst, ?_, ?_⟩, ?_, hsecond, ?_⟩
  · rw [Store.answer_executeAll_of_disjoint store hdisjoint]
    exact hsecond
  · exact congrArg (Shared.mk · false)
      (Store.eq_executeAll_of_disjoint hdisjoint (htables 0) (htables 1) hnone)
  · rw [Store.answer_executeAll_of_disjoint store hdisjoint']
    exact hfirst
  · exact congrArg (Shared.mk · false)
      (Store.eq_executeAll_of_disjoint hdisjoint' (htables 1) (htables 0)
        fun name hno hno' => hnone name hno' hno)

/-- One session stops at a value of the wrong type, and the other makes a table, fills it and reads
it. -/
theorem run_of_disjoint_two_tables :
    let t : Token := { value := "t", kind := .identifier }
    let u : Token := { value := "u", kind := .identifier }
    let word : Expression := .literal { value := "x", kind := .string }
    let seven : Expression := .literal { value := "7", kind := .numeric }
    let store := (Engine.executeEach Store.empty [.createTable ⟨t, [⟨t, Keyword.int.token⟩]⟩]).2
    let first : Script := [.insert ⟨t, [seven]⟩, .insert ⟨t, [word]⟩, .insert ⟨t, [seven]⟩]
    let second : Script := [.createTable ⟨u, [⟨u, Keyword.text.token⟩]⟩, .insert ⟨u, [word]⟩,
      .select ⟨[.literal u], some u⟩]
    let shared : Shared Store := { inner := store, poisoned := false }
    let last := (Sessions.start shared ![first, second]).run [1, 0, 1, 0, 0, 1]
    let one := Engine.executeAll shared first
    let two := Engine.executeAll shared second
    first.tableNames.Disjoint second.tableNames ∧ (∀ i, (last.progress i).Done) ∧
      (last.progress 0).answers.isOk = false ∧ (last.progress 1).answers.isOk = true ∧
      (last.progress 0).answers = one.answer ∧
      (last.progress 1).answers = (Engine.executeAll one.state second).answer ∧
      last.state = (Engine.executeAll one.state second).state ∧
      (last.progress 0).answers = (Engine.executeAll two.state first).answer ∧
      (last.progress 1).answers = two.answer ∧
      last.state = (Engine.executeAll two.state first).state := by
  intro t u word seven store first second shared last one two
  have hnames : ∀ name ∈ first.tableNames, name ∉ second.tableNames := by decide
  have hdisjoint : first.tableNames.Disjoint second.tableNames := fun name => hnames name
  have hdone : ∀ i, (last.progress i).Done := by decide +kernel
  have hfailed : (last.progress 0).answers.isOk = false := by decide +kernel
  have hfinished : (last.progress 1).answers.isOk = true := by decide +kernel
  obtain ⟨⟨hone, htwo, hstate⟩, hone', htwo', hstate'⟩ :=
    run_of_disjoint store hdisjoint [1, 0, 1, 0, 0, 1] hdone
  exact ⟨hdisjoint, hdone, hfailed, hfinished, hone, htwo, hstate, hone', htwo', hstate'⟩

end Shared
end PocketSql
