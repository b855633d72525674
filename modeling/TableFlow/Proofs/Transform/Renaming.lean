import Mathlib.Data.List.Nodup
import TableFlow.Proofs.Table.ByRows
import TableFlow.Proofs.Table.Columns
import TableFlow.Transform.Columns

/-!
# Renaming columns once more

A rename is a list of pairs, and each pair works on the names that the pairs before it have left.
So every column follows the pairs from name to name.  A pair of different names has to meet one of
them: it moves the column of its old name, or it finds its new name there already and moves nothing.
Either way its new name is there afterwards and its old name is not.

So it depends on the pairs alone whether a second run changes anything.  The names at which pairs
leave the columns that they meet have to lead back to themselves, and from there every pair has to
meet one of its names again.  Both hold if no pair takes up the new name of another one.  Where a
pair does, the other one may find neither of its names in the second run, or both.

Main statement: `Rename.apply_again_iff`.
-/

namespace TableFlow

/-- The same columns, each under the name that goes with its name. -/
def Table.relabel (table : Table) (label : String → String) : Table :=
  { table with columns := table.columns.map fun column => column.renamed (label column.name) }

namespace Table

variable {table : Table} {label : String → String}

@[simp] theorem names_relabel (table : Table) (label : String → String) :
    (table.relabel label).names = table.names.map label := by
  simp [names, relabel, Column.renamed, Function.comp_def]

theorem relabel_relabel (table : Table) (first second : String → String) :
    (table.relabel first).relabel second = table.relabel fun name => second (first name) := by
  simp [relabel, Column.renamed, Function.comp_def]

/-- A table stays as it is exactly if its names do. -/
theorem relabel_eq_self_iff :
    table.relabel label = table ↔ ∀ name ∈ table.names, label name = name := by
  constructor
  · intro same name member
    have names := congrArg Table.names same
    rw [names_relabel] at names
    exact List.map_inj_left.1 (names.trans table.names.map_id.symm) name member
  · intro each
    have columns : ∀ column ∈ table.columns, column.renamed (label column.name) = column := by
      intro column member
      rw [each column.name (List.mem_map_of_mem member)]
      rfl
    rw [relabel, List.map_congr_left columns, List.map_id']

theorem WellFormed.relabel (wellFormed : table.WellFormed) (nodup : (table.names.map label).Nodup) :
    (table.relabel label).WellFormed where
  nodup_names := by rwa [names_relabel]
  length_cells := by
    intro column member
    obtain ⟨source, inTable, rfl⟩ := List.mem_map.1 member
    exact wellFormed.length_cells source inTable

theorem WellFormed.nodup_map_of_fixed (wellFormed : table.WellFormed)
    (fixed : ∀ name ∈ table.names, label name = name) : (table.names.map label).Nodup := by
  rw [List.map_congr_left fixed, List.map_id']
  exact wellFormed.nodup_names

end Table

namespace Rename

variable {table output : Table} {old new : String} {pairs : List (String × String)}
  {names : List String}

/-- The name that a column has after a pair. -/
def move (old new name : String) : String :=
  if name = old then new else name

theorem move_eq_self {name : String} (other : name ≠ old) : move old new name = name :=
  if_neg other

theorem move_old : move old new old = new :=
  if_pos rfl

theorem move_new : move old new new = new := by
  rw [move]
  split <;> rfl

theorem move_same (name : String) : move old old name = name := by
  rw [move]
  split
  · rename_i same
    exact same.symm
  · rfl

theorem map_move_same (names : List String) : names.map (move old old) = names := by
  rw [List.map_congr_left fun name _ => move_same name, List.map_id']

theorem renameFirst_eq_map {columns : List Column} (nodup : (columns.map Column.name).Nodup) :
    Table.renameFirst old new columns =
      columns.map fun column => column.renamed (move old new column.name) := by
  induction columns with
  | nil => rfl
  | cons first rest ih =>
      rw [List.map_cons, List.nodup_cons] at nodup
      rw [Table.renameFirst, List.map_cons]
      split
      · rename_i found
        have others : ∀ column ∈ rest, column.renamed (move old new column.name) = column := by
          intro column member
          rw [move_eq_self]
          · rfl
          · rintro rfl
            exact nodup.1 (found ▸ List.mem_map_of_mem member)
        rw [List.map_congr_left others, List.map_id', found, move_old]
      · rename_i other
        rw [move_eq_self other, ih nodup.2]
        rfl

/-- A column can be renamed if it is there and no other one has its new name. -/
theorem renameColumn_eq_ok_iff (wellFormed : table.WellFormed) :
    table.renameColumn old new = .ok output ↔
      old ∈ table.names ∧ (table.names.map (move old new)).Nodup ∧
        output = table.relabel (move old new) := by
  rw [Table.renameColumn]
  split
  · rename_i known
    rw [Table.hasColumn_iff] at known
    have occupied : (table.relabel (move old new)).columns ≠ [] := by
      obtain ⟨column, member, -⟩ := List.mem_map.1 known
      exact List.ne_nil_of_mem (List.mem_map_of_mem member)
    have make (nodup : (table.names.map (move old new)).Nodup) :=
      (wellFormed.relabel nodup).ofColumns_columns occupied
    rw [renameFirst_eq_map wellFormed.nodup_names]
    constructor
    · intro made
      obtain ⟨columns, -, outputWellFormed⟩ := Table.ofColumns_eq_ok_iff.1 made
      have nodup : (table.names.map (move old new)).Nodup := by
        rw [← Table.names_relabel, Table.names, Table.relabel, ← columns]
        exact outputWellFormed.nodup_names
      exact ⟨known, nodup, Except.ok.inj (made.symm.trans (make nodup))⟩
    · rintro ⟨-, nodup, rfl⟩
      exact make nodup
  · rename_i unknown
    rw [Table.hasColumn_iff] at unknown
    simp [unknown]

/-- A pair works exactly if it meets one of its names, unless they are the same, and no two columns
get one name. -/
theorem applyPair_eq_ok_iff (wellFormed : table.WellFormed) :
    applyPair table old new = .ok output ↔
      (old = new ∨ old ∈ table.names ∨ new ∈ table.names) ∧
        (table.names.map (move old new)).Nodup ∧ output = table.relabel (move old new) := by
  simp only [applyPair, ← Bool.not_eq_true, Table.hasColumn_iff]
  split
  · rename_i passed
    -- No column has a name that the pair would change.
    have each : ∀ name ∈ table.names, move old new name = name := by
      intro name member
      rcases passed with rfl | ⟨gone, -⟩
      · exact move_same name
      · exact move_eq_self fun same => gone (same ▸ member)
    have nodup := wellFormed.nodup_map_of_fixed each
    rw [Table.relabel_eq_self_iff.2 each, Except.ok.injEq]
    constructor
    · intro same
      exact ⟨passed.imp_right fun met => .inr met.2, nodup, same.symm⟩
    · intro works
      exact works.2.2.symm
  · rename_i moves
    rw [renameColumn_eq_ok_iff wellFormed]
    apply and_congr_left'
    constructor
    · intro known
      exact .inr (.inl known)
    · rintro (same | known | known)
      · exact absurd (.inl same) moves
      · exact known
      · by_contra unknown
        exact moves (.inr ⟨unknown, known⟩)

/-- The name that a column has after some pairs. -/
def follow : List (String × String) → String → String
  | [], name => name
  | (old, new) :: rest, name => follow rest (move old new name)

/-- Every pair of different names finds one of them when its turn comes. -/
def Meets : List (String × String) → List String → Prop
  | [], _ => True
  | (old, new) :: rest, names =>
      (old = new ∨ old ∈ names ∨ new ∈ names) ∧ Meets rest (names.map (move old new))

instance decidableMeets : (pairs : List (String × String)) → (names : List String) →
    Decidable (Meets pairs names)
  | [], _ => .isTrue trivial
  | (old, new) :: rest, names =>
      have := decidableMeets rest (names.map (move old new))
      inferInstanceAs (Decidable ((old = new ∨ old ∈ names ∨ new ∈ names) ∧ _))

theorem meets_cons : Meets ((old, new) :: pairs) names ↔
    (old = new ∨ old ∈ names ∨ new ∈ names) ∧ Meets pairs (names.map (move old new)) :=
  Iff.rfl

theorem map_follow_cons : names.map (follow ((old, new) :: pairs)) =
    (names.map (move old new)).map (follow pairs) := by
  rw [List.map_map]
  rfl

/-- A rename succeeds exactly if every pair meets one of its names and no two columns end under one
name. -/
theorem applyPairs_eq_ok_iff (wellFormed : table.WellFormed) :
    applyPairs table pairs = .ok output ↔
      Meets pairs table.names ∧ (table.names.map (follow pairs)).Nodup ∧
        output = table.relabel (follow pairs) := by
  induction pairs generalizing table with
  | nil =>
      have fixed : ∀ name ∈ table.names, follow [] name = name := fun _ _ => rfl
      have same := Table.relabel_eq_self_iff.2 fixed
      have nodup := wellFormed.nodup_map_of_fixed fixed
      simp [applyPairs, Meets, same, nodup, eq_comm]
  | cons pair rest ih =>
      obtain ⟨old, new⟩ := pair
      have staged : applyPairs table ((old, new) :: rest) =
          (applyPair table old new).bind fun next => applyPairs next rest := by
        rw [applyPairs]
        cases applyPair table old new <;> rfl
      rw [staged, bind_eq_ok_iff, meets_cons, map_follow_cons]
      constructor
      · rintro ⟨next, first, later⟩
        obtain ⟨meets, nodup, rfl⟩ := (applyPair_eq_ok_iff wellFormed).1 first
        rw [ih (wellFormed.relabel nodup), Table.names_relabel, Table.relabel_relabel] at later
        exact ⟨⟨meets, later.1⟩, later.2⟩
      · rintro ⟨⟨meets, later⟩, nodup, outputEq⟩
        -- Names that differ in the end have differed all along.
        have first := List.Nodup.of_map _ nodup
        refine ⟨_, (applyPair_eq_ok_iff wellFormed).2 ⟨meets, first, rfl⟩, ?_⟩
        rw [ih (wellFormed.relabel first), Table.names_relabel, Table.relabel_relabel]
        exact ⟨later, nodup, outputEq⟩

/-- A rename leaves a table as it is exactly if every pair meets one of its names and all names lead
back to themselves. -/
theorem applyPairs_eq_ok_self_iff (wellFormed : table.WellFormed) :
    applyPairs table pairs = .ok table ↔
      Meets pairs table.names ∧ ∀ name ∈ table.names, follow pairs name = name := by
  rw [applyPairs_eq_ok_iff wellFormed, eq_comm, Table.relabel_eq_self_iff]
  apply and_congr_right'
  constructor
  · exact And.right
  · intro back
    exact ⟨wellFormed.nodup_map_of_fixed back, back⟩

/-! ## Where pairs leave columns -/

/-- The names at which pairs of different names leave the columns that they meet. -/
def ends : List (String × String) → List String
  | [] => []
  | (old, new) :: rest => if old = new then ends rest else follow rest new :: ends rest

/-- A name that is in no pair of different names. -/
def Untouched (pairs : List (String × String)) (name : String) : Prop :=
  ∀ pair ∈ pairs, pair.1 ≠ pair.2 → name ≠ pair.1 ∧ name ≠ pair.2

/-- Only an old name leads to another one. -/
theorem follow_eq_self {name : String} (stays : ∀ pair ∈ pairs, pair.1 ≠ pair.2 → name ≠ pair.1) :
    follow pairs name = name := by
  induction pairs with
  | nil => rfl
  | cons pair rest ih =>
      obtain ⟨old, new⟩ := pair
      rw [List.forall_mem_cons] at stays
      have first : move old new name = name := by
        by_cases same : old = new
        · rw [same, move_same]
        · exact move_eq_self (stays.1 same)
      rw [follow, first, ih stays.2]

theorem Untouched.follow_eq_self {name : String} (untouched : Untouched pairs name) :
    follow pairs name = name :=
  Rename.follow_eq_self fun pair member different => (untouched pair member different).1

/-- A name that the pairs touch leads to one of their ends. -/
theorem follow_mem_ends_or_untouched (pairs : List (String × String)) (name : String) :
    follow pairs name ∈ ends pairs ∨ Untouched pairs name := by
  induction pairs generalizing name with
  | nil => exact .inr (by simp [Untouched])
  | cons pair rest ih =>
      obtain ⟨old, new⟩ := pair
      rw [follow, ends, Untouched, List.forall_mem_cons]
      by_cases same : old = new
      · subst same
        rw [if_pos rfl, move_same]
        exact (ih name).imp_right fun untouched =>
          ⟨fun different => absurd rfl different, untouched⟩
      · rw [if_neg same, List.mem_cons]
        by_cases isOld : name = old
        · exact .inl (.inl (by rw [isOld, move_old]))
        · rw [move_eq_self isOld]
          by_cases isNew : name = new
          · exact .inl (.inl (by rw [isNew]))
          · exact (ih name).imp .inr fun untouched => ⟨fun _ => ⟨isOld, isNew⟩, untouched⟩

/-- Where every pair meets one of its names, all ends are names of columns. -/
theorem mem_map_follow_of_mem_ends (meets : Meets pairs names) {name : String}
    (member : name ∈ ends pairs) : name ∈ names.map (follow pairs) := by
  induction pairs generalizing names with
  | nil => cases member
  | cons pair rest ih =>
      obtain ⟨old, new⟩ := pair
      rw [map_follow_cons]
      rw [ends] at member
      split at member
      · exact ih meets.2 member
      · rename_i different
        rcases List.mem_cons.1 member with rfl | later
        · apply List.mem_map_of_mem
          -- Moved there or found there, a column has the new name when the next pair comes.
          rcases meets.1 with same | known | known
          · exact absurd same different
          · exact List.mem_map.2 ⟨old, known, move_old⟩
          · exact List.mem_map.2 ⟨new, known, move_new⟩
        · exact ih meets.2 later

theorem mem_map_move_iff (different : old ≠ new) {name : String} :
    name ∈ names.map (move old new) ↔ name = new ∧ old ∈ names ∨ name ≠ old ∧ name ∈ names := by
  rw [List.mem_map]
  constructor
  · rintro ⟨source, member, rfl⟩
    by_cases isOld : source = old
    · exact .inl ⟨isOld ▸ move_old, isOld ▸ member⟩
    · rw [move_eq_self isOld]
      exact .inr ⟨isOld, member⟩
  · rintro (⟨rfl, member⟩ | ⟨other, member⟩)
    · exact ⟨old, member, move_old⟩
    · exact ⟨name, member, move_eq_self other⟩

/-- Whether pairs meet their names depends on the names that they touch. -/
theorem meets_congr {others : List String}
    (agree : ∀ name, ¬ Untouched pairs name → (name ∈ names ↔ name ∈ others)) :
    Meets pairs names ↔ Meets pairs others := by
  induction pairs generalizing names others with
  | nil => rfl
  | cons pair rest ih =>
      obtain ⟨old, new⟩ := pair
      have agreeLater : ∀ name, ¬ Untouched rest name → (name ∈ names ↔ name ∈ others) := by
        intro name touched
        exact agree name fun untouched =>
          touched fun pair member => untouched pair (List.mem_cons_of_mem _ member)
      rw [meets_cons, meets_cons]
      by_cases same : old = new
      · subst same
        rw [map_move_same, map_move_same, ih agreeLater]
        simp
      · have agreeOld := agree old fun untouched => (untouched _ List.mem_cons_self same).1 rfl
        have agreeNew := agree new fun untouched => (untouched _ List.mem_cons_self same).2 rfl
        rw [agreeOld, agreeNew]
        apply and_congr_right'
        apply ih
        intro name touched
        rw [mem_map_move_iff same, mem_map_move_iff same, agreeOld, agreeLater name touched]

/-- The ends of the pairs lead back to themselves, and from them every pair meets one of its
names. -/
structure ComesRound (pairs : List (String × String)) : Prop where
  meets : Meets pairs (ends pairs)
  back : ∀ name ∈ ends pairs, follow pairs name = name

instance (pairs : List (String × String)) : Decidable (ComesRound pairs) :=
  decidable_of_iff (Meets pairs (ends pairs) ∧ ∀ name ∈ ends pairs, follow pairs name = name)
    ⟨fun both => ⟨both.1, both.2⟩, fun round => ⟨round.meets, round.back⟩⟩

/-- After a rename the ends of its pairs are the names that matter to them. -/
theorem comesRound_iff (met : Meets pairs names) :
    ComesRound pairs ↔ Meets pairs (names.map (follow pairs)) ∧
      ∀ name ∈ names.map (follow pairs), follow pairs name = name := by
  have agree : ∀ name, ¬ Untouched pairs name →
      (name ∈ ends pairs ↔ name ∈ names.map (follow pairs)) := by
    intro name touched
    constructor
    · exact mem_map_follow_of_mem_ends met
    · intro member
      obtain ⟨source, -, rfl⟩ := List.mem_map.1 member
      rcases follow_mem_ends_or_untouched pairs source with ended | untouched
      · exact ended
      · exact absurd (untouched.follow_eq_self.symm ▸ untouched) touched
  rw [← meets_congr agree]
  constructor
  · rintro ⟨meets, back⟩
    refine ⟨meets, ?_⟩
    intro name member
    by_cases untouched : Untouched pairs name
    · exact untouched.follow_eq_self
    · exact back name ((agree name untouched).2 member)
  · rintro ⟨meets, back⟩
    exact ⟨meets, fun name member => back name (mem_map_follow_of_mem_ends met member)⟩

/-- No pair of different names takes up the new name of such a pair. -/
def Unchained (pairs : List (String × String)) : Prop :=
  ∀ pair ∈ pairs, ∀ other ∈ pairs, pair.1 ≠ pair.2 → other.1 ≠ other.2 → pair.2 ≠ other.1

instance (pairs : List (String × String)) : Decidable (Unchained pairs) :=
  inferInstanceAs (Decidable (∀ pair ∈ pairs, ∀ other ∈ pairs, _ → _ → _))

/-- An end is the new name of a pair. -/
theorem exists_of_mem_ends {name : String} (member : name ∈ ends pairs) :
    ∃ pair ∈ pairs, pair.1 ≠ pair.2 ∧ pair.2 = name := by
  induction pairs generalizing name with
  | nil => cases member
  | cons pair rest ih =>
      obtain ⟨old, new⟩ := pair
      have later (inRest : name ∈ ends rest) :
          ∃ pair ∈ (old, new) :: rest, pair.1 ≠ pair.2 ∧ pair.2 = name := by
        obtain ⟨pair, inside, isNew⟩ := ih inRest
        exact ⟨pair, List.mem_cons_of_mem _ inside, isNew⟩
      rw [ends] at member
      split at member
      · exact later member
      · rename_i different
        rcases List.mem_cons.1 member with rfl | inRest
        · rcases follow_mem_ends_or_untouched rest new with moved | untouched
          · exact later moved
          · exact ⟨_, List.mem_cons_self, different, untouched.follow_eq_self.symm⟩
        · exact later inRest

theorem Unchained.follow_new (unchained : Unchained pairs) {pair : String × String}
    (member : pair ∈ pairs) (different : pair.1 ≠ pair.2) : follow pairs pair.2 = pair.2 :=
  follow_eq_self fun other inside => unchained pair member other inside different

/-- The new names of unchained pairs are met as long as they are there. -/
theorem Unchained.meets (unchained : Unchained pairs)
    (known : ∀ pair ∈ pairs, pair.1 ≠ pair.2 → pair.2 ∈ names) : Meets pairs names := by
  induction pairs generalizing names with
  | nil => trivial
  | cons pair rest ih =>
      obtain ⟨old, new⟩ := pair
      refine ⟨?_, ih ?_ ?_⟩
      · by_cases same : old = new
        · exact .inl same
        · exact .inr (.inr (known _ List.mem_cons_self same))
      · intro pair member other inside
        exact unchained pair (List.mem_cons_of_mem _ member) other (List.mem_cons_of_mem _ inside)
      · intro pair member different
        have inNames := known pair (List.mem_cons_of_mem _ member) different
        by_cases same : old = new
        · rwa [same, map_move_same]
        · have kept : pair.2 ≠ old :=
            unchained pair (List.mem_cons_of_mem _ member) _ List.mem_cons_self different same
          exact List.mem_map.2 ⟨pair.2, inNames, move_eq_self kept⟩

theorem Unchained.comesRound (unchained : Unchained pairs) : ComesRound pairs where
  meets := by
    apply unchained.meets
    intro pair member different
    rcases follow_mem_ends_or_untouched pairs pair.2 with ended | untouched
    · rwa [unchained.follow_new member different] at ended
    · exact absurd rfl (untouched pair member different).2
  back := by
    intro name member
    obtain ⟨pair, inside, different, rfl⟩ := exists_of_mem_ends member
    exact unchained.follow_new inside different

/-- A rename that has succeeded changes nothing when it is applied again exactly if its pairs come
round, whatever the table is.  Unchained pairs do. -/
theorem apply_again_iff (rename : Rename) (table output : Table) (wellFormed : table.WellFormed)
    (applied : rename.apply table = .ok output) :
    (rename.apply output = .ok output ↔ ComesRound rename.pairs) ∧
      (Unchained rename.pairs → rename.apply output = .ok output) := by
  obtain ⟨met, nodup, rfl⟩ := (applyPairs_eq_ok_iff wellFormed).1 applied
  have again : rename.apply (table.relabel (follow rename.pairs)) =
      .ok (table.relabel (follow rename.pairs)) ↔ ComesRound rename.pairs := by
    rw [comesRound_iff met, ← Table.names_relabel]
    exact applyPairs_eq_ok_self_iff (wellFormed.relabel nodup)
  exact ⟨again, fun unchained => again.2 unchained.comesRound⟩

/-- Two readings, the second of them without a unit. -/
def readings : Table :=
  { columns :=
      [⟨"temp", [.float 21.5, .integer 70]⟩, ⟨"unit", [.text "C", .null]⟩,
       ⟨"time", [.timestamp 0, .timestamp 3600000]⟩]
    rowCount := 2 }

/-- The readings with another name for their time. -/
def hourlyReadings : Table :=
  readings.relabel fun name => if name = "time" then "hour" else name

/-- A column goes away from its name and back, and another one gets a new name. -/
def detour : Rename :=
  { pairs := [("temp", "value"), ("unit", "unit"), ("time", "hour"), ("value", "temp")] }

/-- The detour can be taken again, although its pairs are chained. -/
theorem apply_again_iff_detour :
    readings.WellFormed ∧ detour.apply readings = .ok hourlyReadings ∧
      ComesRound detour.pairs ∧ ¬ Unchained detour.pairs ∧
      detour.apply hourlyReadings = .ok hourlyReadings := by
  have wellFormed : readings.WellFormed := ⟨by decide, by decide⟩
  have applied : detour.apply readings = .ok hourlyReadings := rfl
  have round : ComesRound detour.pairs := by decide
  exact ⟨wellFormed, applied, round, by decide,
    (apply_again_iff detour readings _ wellFormed applied).1.2 round⟩

/-- A column gets a new name by way of another one. -/
def relay : Rename :=
  { pairs := [("temp", "value"), ("value", "degrees")] }

/-- The second pair takes the new name of the first one away, which then meets none of its names. -/
theorem apply_again_relay :
    ∃ output, readings.WellFormed ∧ relay.apply readings = .ok output ∧
      relay.apply output = .error (.missingColumn "temp") :=
  ⟨_, ⟨by decide, by decide⟩, rfl, rfl⟩

-- Columns that trade their names do it again, although every pair meets its names.
example :
    let trade : Rename := { pairs := [("temp", "value"), ("unit", "temp"), ("value", "unit")] }
    (trade.apply readings).bind trade.apply = .ok readings ∧
      (trade.apply readings).map Table.names = .ok ["unit", "temp", "time"] :=
  ⟨rfl, rfl⟩

end Rename

end TableFlow
