import LinkedTables.Proofs.Calls
import LinkedTables.Proofs.ConversionFaults
import LinkedTables.Proofs.Sequences
import Mathlib.Data.List.Induction

/-!
# Conversion of rows

A row is converted cell by cell, up to the first cell that its column refuses (`Converts`). What a
column accepts it accepts again as it is, without any change of its filling (`accept_again`): a
converted value converts to itself, and a sequence that has seen it sees nothing new. A row that has
been converted is therefore converted again without any change (`conversion_of_row`).
-/

namespace LinkedTables

/-! ### Fillings -/

/-- No value of a local default is itself the mark for the default. -/
def Default.Plain : Default → Prop
  | .value v => v ≠ .useDefault
  | .supply vs => ∀ v ∈ vs, v ≠ .useDefault

namespace Filling

variable {f f' : Filling} {v w : Value}

/-- The local default, if there is one, is not itself the mark for the default. -/
def Plain (f : Filling) : Prop := ∀ d, f.default = some d → d.Plain

theorem observe_observe (f : Filling) (v : Value) : (f.observe v).observe v = f.observe v := by
  have again (n : Int) (s : Option Sequence) :
      (s.map (·.observe n)).map (·.observe n) = s.map (·.observe n) := by
    rw [Option.map_map]
    exact congrArg (s.map ·) (funext fun s => s.observe_observe n)
  cases v with
  | int n => exact congrArg (Filling.mk f.default) (again n f.sequence)
  | bool b => exact congrArg (Filling.mk f.default) (again _ f.sequence)
  | _ => rfl

/-- What is put in for a default is a value. -/
theorem Plain.take (plain : f.Plain) (taken : f.take = (.ok (some v), f')) : v ≠ .useDefault := by
  unfold Filling.take at taken
  split at taken
  case h_1 =>
    cases taken
    nofun
  case h_3 here given =>
    cases taken
    exact plain _ given
  case h_4 here given =>
    cases taken
    exact plain _ given _ List.mem_cons_self
  all_goals cases taken

/-- Where nothing is put in for a default, nothing is used up. -/
theorem take_none (taken : f.take = (.ok Option.none, f')) : f' = f := by
  unfold Filling.take at taken
  split at taken <;> cases taken <;> rfl

end Filling

/-! ### Cells -/

/-- A conversion does not make a mark for the default. -/
theorem ColumnType.explicit_of_convert {t : ColumnType} {v w : Value} (explicit : v ≠ .useDefault)
    (ok : t.convert v = .ok w) : w ≠ .useDefault := by
  cases holds_of_ok ok with
  | untyped _ kind =>
    rw [convert, Kind.group_eq_iff.mpr kind] at ok
    cases ok
    exact explicit
  | _ => nofun

namespace Column

variable {c : Column} {f f' : Filling} {v w : Value}

theorem convertFor_again (explicit : v ≠ .useDefault) (ok : c.convertFor f v = (.ok w, f')) :
    c.accept f' w = (.ok w, f') := by
  by_cases given : v = .null
  · subst given
    cases ok
    rfl
  cases converted : c.type.convert v with
  | error cause =>
    rw [convertFor_of_error given converted] at ok
    cases ok
  | ok w' =>
    rw [convertFor_of_ok given converted] at ok
    cases ok
    rw [accept_eq_convertFor (ColumnType.explicit_of_convert explicit converted)]
    by_cases null : w = .null
    · subst null
      rfl
    · rw [convertFor_of_ok null (ColumnType.holds_of_ok converted).convert, f.observe_observe]

/-- What a column accepts it accepts again as it is, and its filling stays. -/
theorem accept_again (plain : f.Plain) (ok : c.accept f v = (.ok w, f')) :
    c.accept f' w = (.ok w, f') := by
  by_cases explicit : v = .useDefault
  · subst explicit
    obtain ⟨r, f₁, taken⟩ : ∃ r f₁, f.take = (r, f₁) := ⟨_, _, rfl⟩
    rw [accept, taken] at ok
    match r with
    | .error fault => cases ok
    | .ok (some d) => exact convertFor_again (plain.take taken) ok
    | .ok none =>
      cases ok
      obtain rfl := Filling.take_none taken
      rw [accept, taken]
  · exact convertFor_again explicit (accept_eq_convertFor explicit ▸ ok)

end Column

/-! ### Rows -/

namespace LinkedTable

variable {columns : List Column} {fillings fillings' : List Filling} {row row' : List Value}

/-- The cells of a row before a place are what their columns have accepted, and the cells and
fillings from there on are as they were. -/
structure Converts (columns : List Column) (fillings : List Filling) (row : List Value) (k : Nat)
    (row' : List Value) (fillings' : List Filling) : Prop where
  cells : ∀ i < k, ∃ c f v w f', columns[i]? = some c ∧ fillings[i]? = some f ∧ row[i]? = some v
    ∧ c.accept f v = (.ok w, f') ∧ row'[i]? = some w ∧ fillings'[i]? = some f'
  row : ∀ i, k ≤ i → row'[i]? = row[i]?
  fillings : ∀ i, k ≤ i → fillings'[i]? = fillings[i]?

/-- One cell after the other is converted. -/
theorem convertColumn_eq {c : Column} {f : Filling} {v : Value}
    (here : row[c.ordinal]? = some v) (own : fillings[c.ordinal]? = some f) :
    convertColumn ⟨row, fillings, none⟩ c = match c.accept f v with
      | (.ok w, f') => ⟨row.set c.ordinal w, fillings.set c.ordinal f', none⟩
      | (.error fault, f') => ⟨row, fillings.set c.ordinal f', some fault⟩ := by
  have filling : fillings.getD c.ordinal Filling.none = f := by
    rw [List.getD_eq_getElem?_getD, own]
    rfl
  unfold convertColumn
  dsimp only
  rw [here, filling]
  cases v with
  | null =>
    obtain ⟨inside, value⟩ := List.getElem?_eq_some_iff.mp here
    obtain ⟨inside', filling⟩ := List.getElem?_eq_some_iff.mp own
    show Conversion.mk row fillings none
      = ⟨row.set c.ordinal .null, fillings.set c.ordinal f, none⟩
    rw [← value, ← filling, List.set_getElem_self, List.set_getElem_self]
  | _ => rfl

/-- Behind a fault nothing more is converted. -/
theorem convertColumn_of_fault (fault : Fault) (c : Column) :
    convertColumn ⟨row, fillings, some fault⟩ c = ⟨row, fillings, some fault⟩ := rfl

theorem converts_nothing : Converts columns fillings row 0 row fillings :=
  ⟨fun _ before => absurd before (Nat.not_lt_zero _), fun _ _ => rfl, fun _ _ => rfl⟩

namespace Converts

variable {c : Column} {f f' : Filling} {v w : Value} {k : Nat}

/-- More columns behind those of the cells do not matter. -/
theorem append (converts : Converts columns fillings row k row' fillings')
    (more : List Column) : Converts (columns ++ more) fillings row k row' fillings' := by
  refine ⟨fun i before => ?_, converts.row, converts.fillings⟩
  obtain ⟨c, f, v, w, f', column, rest⟩ := converts.cells i before
  obtain ⟨inside, -⟩ := List.getElem?_eq_some_iff.mp column
  exact ⟨c, f, v, w, f', (List.getElem?_append_left inside).trans column, rest⟩

/-- The next cell is converted as well. -/
theorem succ (converts : Converts columns fillings row k row' fillings')
    (column : columns[k]? = some c) (own : fillings[k]? = some f) (here : row[k]? = some v)
    (ok : c.accept f v = (.ok w, f')) :
    Converts columns fillings row (k + 1) (row'.set k w) (fillings'.set k f') := by
  have inside : k < row'.length :=
    (List.getElem?_eq_some_iff.mp ((converts.row k (Nat.le_refl k)).trans here)).1
  have inside' : k < fillings'.length :=
    (List.getElem?_eq_some_iff.mp ((converts.fillings k (Nat.le_refl k)).trans own)).1
  refine ⟨fun i before => ?_, fun i behind => ?_, fun i behind => ?_⟩
  · rcases Nat.lt_succ_iff_lt_or_eq.mp before with before | rfl
    · have other : k ≠ i := Nat.ne_of_gt before
      rw [List.getElem?_set_ne other, List.getElem?_set_ne other]
      exact converts.cells i before
    · exact ⟨c, f, v, w, f', column, own, here, ok, List.getElem?_set_self inside,
        List.getElem?_set_self inside'⟩
  · rw [List.getElem?_set_ne (by omega)]
    exact converts.row i (by omega)
  · rw [List.getElem?_set_ne (by omega)]
    exact converts.fillings i (by omega)

end Converts

/-- A column at a place refuses what a row has there, and what becomes of its filling. -/
def RefusedAt (columns : List Column) (fillings : List Filling) (row : List Value) (k : Nat)
    (fault : Fault) (f' : Filling) : Prop :=
  ∃ c f v, columns[k]? = some c ∧ fillings[k]? = some f ∧ row[k]? = some v
    ∧ c.accept f v = (.error fault, f')

/-- A row is converted up to its end, or up to the first cell that is refused. -/
theorem converts_of_convertRow (numbered : Numbered columns) (wide : columns.length ≤ row.length)
    (filled : columns.length ≤ fillings.length) :
    (∃ row' fillings', convertRow columns fillings row = ⟨row', fillings', none⟩
      ∧ Converts columns fillings row columns.length row' fillings')
    ∨ ∃ k row' fillings' fault f',
      convertRow columns fillings row = ⟨row', fillings'.set k f', some fault⟩
        ∧ Converts columns fillings row k row' fillings'
        ∧ RefusedAt columns fillings row k fault f' := by
  -- The columns are gone through from the left, so that the last one is taken off.
  induction columns using List.reverseRecOn with
  | nil => exact .inl ⟨row, fillings, rfl, converts_nothing⟩
  | append_singleton before c ih =>
    rw [List.length_append, List.length_singleton] at wide filled
    have step : convertRow (before ++ [c]) fillings row
        = convertColumn (convertRow before fillings row) c := List.foldl_append ..
    have earlier : Numbered before := fun i c' found => by
      obtain ⟨inside, -⟩ := List.getElem?_eq_some_iff.mp found
      exact numbered i c' ((List.getElem?_append_left inside).trans found)
    rcases ih earlier (by omega) (by omega) with
      ⟨row', fillings', done, converts⟩ | ⟨k, row', fillings', fault, f', ended, converts, refused⟩
    · have column : (before ++ [c])[before.length]? = some c := List.getElem?_concat_length
      have place : c.ordinal = before.length := numbered _ c column
      obtain ⟨v, here⟩ : ∃ v, row[before.length]? = some v := ⟨_, List.getElem?_eq_getElem wide⟩
      obtain ⟨f, own⟩ : ∃ f, fillings[before.length]? = some f :=
        ⟨_, List.getElem?_eq_getElem filled⟩
      have here' := (converts.row _ (Nat.le_refl _)).trans here
      have own' := (converts.fillings _ (Nat.le_refl _)).trans own
      have behind := converts.append [c]
      rw [step, done, convertColumn_eq (place ▸ here') (place ▸ own'), place, List.length_append]
      obtain ⟨r, f', accepted⟩ : ∃ r f', c.accept f v = (r, f') := ⟨_, _, rfl⟩
      rw [accepted]
      cases r with
      | ok w => exact .inl ⟨_, _, rfl, behind.succ column own here accepted⟩
      | error fault =>
        exact .inr ⟨_, _, _, fault, f', rfl, behind, c, f, v, column, own, here, accepted⟩
    · obtain ⟨c', f, v, column, refused⟩ := refused
      obtain ⟨inside, -⟩ := List.getElem?_eq_some_iff.mp column
      rw [step, ended, convertColumn_of_fault]
      exact .inr ⟨k, row', fillings', fault, f', rfl, converts.append [c], c', f, v,
        (List.getElem?_append_left inside).trans column, refused⟩

/-- A row that every column accepts as it is stays as it is. -/
theorem convertRow_of_accepted
    (accepted : ∀ c ∈ columns, ∃ f v, fillings[c.ordinal]? = some f ∧ row[c.ordinal]? = some v
      ∧ c.accept f v = (.ok v, f)) :
    convertRow columns fillings row = ⟨row, fillings, none⟩ := by
  induction columns with
  | nil => rfl
  | cons c rest ih =>
    obtain ⟨⟨f, v, own, here, ok⟩, accepted⟩ := List.forall_mem_cons.mp accepted
    obtain ⟨inside, value⟩ := List.getElem?_eq_some_iff.mp here
    obtain ⟨inside', filling⟩ := List.getElem?_eq_some_iff.mp own
    have first : convertColumn ⟨row, fillings, none⟩ c = ⟨row, fillings, none⟩ := by
      rw [convertColumn_eq here own, ok]
      dsimp only
      rw [← value, ← filling, List.set_getElem_self, List.set_getElem_self]
    rw [convertRow, List.foldl_cons, first]
    exact ih accepted

/-- A row that has been converted is converted to itself. -/
theorem Converts.again (numbered : Numbered columns) (plain : ∀ f ∈ fillings, f.Plain)
    (converts : Converts columns fillings row columns.length row' fillings') :
    convertRow columns fillings' row' = ⟨row', fillings', none⟩ := by
  refine convertRow_of_accepted fun c among => ?_
  obtain ⟨i, inside, found⟩ := List.getElem_of_mem among
  obtain ⟨c', f, v, w, f', column, own, here, ok, here', own'⟩ := converts.cells i inside
  obtain rfl : c' = c := Option.some.inj
    (column.symm.trans ((List.getElem?_eq_getElem inside).trans (congrArg some found)))
  rw [numbered i c' column]
  exact ⟨f', w, own', here', Column.accept_again (plain f (List.mem_of_getElem? own)) ok⟩

/-- Null stays null. -/
theorem Converts.null {k : Nat} (converts : Converts columns fillings row k row' fillings')
    {i : Nat} (null : row[i]? = some .null) : row'[i]? = some .null := by
  rcases Nat.lt_or_ge i k with before | behind
  · obtain ⟨c, f, v, w, f', -, -, here, ok, here', -⟩ := converts.cells i before
    cases here.symm.trans null
    cases ok
    exact here'
  · exact (converts.row i behind).trans null

end LinkedTable

/-! ### Tables -/

namespace Host

open LinkedTable

variable {h : Host} {t : Nat}

/-- The host with other fillings of the columns of a table. -/
def withFillings (h : Host) (t : Nat) (fillings : List Filling) : Host :=
  { h with tables := h.tables.revise t fun table => { table with fillings } }

theorem table_withFillings (known : t < h.tables.next) (fillings : List Filling) :
    (h.withFillings t fillings).table t = { h.table t with fillings } := by
  have here : h.tables.at? t = some (h.table t) := by
    rw [table, Roster.at?, List.getElem?_eq_getElem known]
    rfl
  rw [table, withFillings, Roster.at?_revise_self, here]
  rfl

theorem withFillings_again (h : Host) (t : Nat) (fillings : List Filling) :
    (h.withFillings t fillings).withFillings t fillings = h.withFillings t fillings :=
  congrArg (fun tables => { h with tables }) (Roster.revise_revise h.tables t _ _)

/-- Converting a row for a table changes nothing but the fillings of its columns. -/
theorem act_convertRow (h : Host) (t : Nat) (row : List Value) :
    h.act (Action.convertRow t row)
      = let conversion := convertRow (h.table t).columns (h.table t).fillings row
        (.ok (conversion.row, conversion.fault), h.withFillings t conversion.fillings) := rfl

/-- A row is converted for a table to its end or up to a cell. If it is converted to its end, its
nulls and its values beyond the columns stay, and the other cells are what their columns have
accepted; to convert it again comes to the same row and changes nothing, no sequence and no local
default. If the conversion ends at a cell, the row is as it was from there on, and converted up to
there. -/
theorem conversion_of_row {row : List Value} (columned : h.Columned t)
    (filled : (h.table t).fillings.length = (h.table t).columns.length)
    (plain : ∀ f ∈ (h.table t).fillings, f.Plain)
    (wide : (h.table t).columns.length ≤ row.length) :
    let columns := (h.table t).columns
    let fillings := (h.table t).fillings
    ∃ row' fillings' fault,
      h.act (Action.convertRow t row) = (.ok (row', fault), h.withFillings t fillings')
      ∧ (fault = none →
        (∀ i : Nat, row[i]? = some .null → row'[i]? = some .null)
        ∧ (∀ i : Nat, columns.length ≤ i → row'[i]? = row[i]?)
        ∧ Converts columns fillings row columns.length row' fillings'
        ∧ (h.withFillings t fillings').act (Action.convertRow t row')
          = (.ok (row', none), h.withFillings t fillings'))
      ∧ ∀ f, fault = some f → ∃ k < columns.length,
        (∃ f', RefusedAt columns fillings row k f f')
        ∧ (∀ i : Nat, k ≤ i → row'[i]? = row[i]?)
        ∧ ∀ i < k, ∃ c f v w f', columns[i]? = some c ∧ fillings[i]? = some f ∧ row[i]? = some v
          ∧ c.accept f v = (.ok w, f') ∧ row'[i]? = some w := by
  intro columns fillings
  have acted := h.act_convertRow t row
  rcases converts_of_convertRow columned.numbered wide (Nat.le_of_eq filled.symm) with
    ⟨row', fillings', done, converts⟩ | ⟨k, row', fillings', fault, f', ended, converts, refused⟩
  · rw [done] at acted
    refine ⟨row', fillings', none, acted, fun _ => ?_, nofun⟩
    refine ⟨fun i => converts.null, converts.row, converts, ?_⟩
    rw [act_convertRow, table_withFillings columned.known,
      converts.again columned.numbered plain]
    exact congrArg (Prod.mk _) (h.withFillings_again t fillings')
  · rw [ended] at acted
    refine ⟨row', fillings'.set k f', some fault, acted, nofun, ?_⟩
    rintro fault' ⟨⟩
    have inside : k < columns.length := by
      obtain ⟨c, f, v, column, -⟩ := refused
      exact (List.getElem?_eq_some_iff.mp column).1
    refine ⟨k, inside, ⟨f', refused⟩, converts.row, fun i before => ?_⟩
    obtain ⟨c, f, v, w, f', column, own, here, ok, here', -⟩ := converts.cells i before
    exact ⟨c, f, v, w, f', column, own, here, ok, here'⟩

/-- A generated key and a local default are put in once: the row is converted again without a new
key. -/
theorem conversion_of_defaults :
    let id : Column := ⟨"ID", .ofKind .bigint, 0, "id", false⟩
    let status : Column := ⟨"STATUS", ⟨.varchar, 10, 0, none⟩, 1, "status", true⟩
    let table : LinkedTable :=
      { LinkedTable.unconnected "PUBLIC" 1 "FIRST" .bare 100 [] with
        columns := [id, status]
        fillings := [⟨none, some ⟨5, -2⟩⟩, ⟨some (.supply [.text "new", .text "next"]), none⟩] }
    let h := (start (.admitting 0 0) (.bare false) .error).withTable table
    let row : List Value := [.useDefault, .useDefault, .int 7]
    let row' : List Value := [.int 5, .text "new", .int 7]
    h.Columned 0 ∧ (h.table 0).fillings.length = (h.table 0).columns.length
      ∧ (∀ f ∈ (h.table 0).fillings, f.Plain) ∧ (h.table 0).columns.length ≤ row.length
      ∧ ∃ h', h.act (Action.convertRow 0 row) = (.ok (row', none), h')
        ∧ h'.act (Action.convertRow 0 row') = (.ok (row', none), h') := by
  intro id status table h row row'
  have columned : h.Columned 0 := by
    refine ⟨by decide, ?_⟩
    rintro (_ | _ | i) c found
    · exact Option.some.inj found ▸ rfl
    · exact Option.some.inj found ▸ rfl
    · exact absurd found nofun
  have supply : (Default.supply [.text "new", .text "next"]).Plain := by
    simp only [Default.Plain, List.forall_mem_cons]
    exact ⟨nofun, nofun, nofun⟩
  have plain : ∀ f ∈ (h.table 0).fillings, f.Plain := by
    refine List.forall_mem_cons.mpr ⟨nofun, List.forall_mem_cons.mpr ⟨fun d given => ?_, nofun⟩⟩
    exact Option.some.inj given ▸ supply
  have wide : (h.table 0).columns.length ≤ row.length := by decide
  obtain ⟨row₁, fillings', fault, converted, through, -⟩ :=
    conversion_of_row columned rfl plain wide
  have computed : (h.act (Action.convertRow 0 row)).1 = .ok (row', none) := rfl
  rw [converted] at computed
  cases computed
  exact ⟨columned, rfl, plain, wide, _, converted, (through rfl).2.2.2⟩

end Host

end LinkedTables
