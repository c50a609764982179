import TableMapping.Proofs.FirstItem
import TableMapping.Proofs.Request.Present
import TableMapping.Proofs.Schema.Declared

/-!
# Joins along foreign keys

A table is joined along the first foreign key that fits: one of a table in scope that refers to the
joined table, if the property to join on is of a record type in scope, and one of the joined table
that refers to a table in scope, if the property is of the joined table. All pairs of the key take
part, and in each the column of the table in scope stands in front. A join along no key is refused,
and so is whatever is asked for with it.
-/

namespace TableMapping

namespace Scope

/-! ## Keys that connect a table -/

/-- The record types in scope. -/
def records (scope : Scope) : List RecordType := scope.tables.map Table.record

/-- A foreign key of a table in scope fits a join: it refers to the joined table, and the property
to join on is one of its own. -/
def FitsForward (request : JoinRequest) (key : ForeignKey) : Prop :=
  key.target = request.record ∧ request.on.name ∈ key.columns

/-- A foreign key of the joined table fits a join: it refers to a table in scope, and the property
to join on is one of its own. -/
def FitsBackward (scope : Scope) (request : JoinRequest) (key : ForeignKey) : Prop :=
  request.on.name ∈ key.columns ∧ key.target ∈ scope.records

/-- The pairs of properties of the first foreign key along which a table is joined, each with that
of a table in scope in front. -/
inductive Connects (scope : Scope) (joined : Table) (request : JoinRequest) :
    List (PropertyKey × PropertyKey) → Prop
  | forward {owner : Table} {key : ForeignKey} (member : owner ∈ scope.tables)
      (own : owner.record = request.on.record)
      (first : IsFirst (FitsForward request) owner.foreignKeys key) :
      Connects scope joined request
        (key.pairs.map fun pair => (owner.key pair.1, joined.key pair.2))
  | backward {key : ForeignKey} (own : request.on.record = request.record)
      (first : IsFirst (scope.FitsBackward request) joined.foreignKeys key) :
      Connects scope joined request
        (key.pairs.map fun pair => (⟨key.target, pair.2⟩, joined.key pair.1))

section Pairs

variable {scope : Scope} {joined : Table} {request : JoinRequest}
  {on : List (PropertyKey × PropertyKey)}

theorem record_mem {table : Table} (member : table ∈ scope.tables) :
    table.record ∈ scope.records :=
  List.mem_map_of_mem member

theorem has_eq_true_iff_mem {record : RecordType} :
    scope.has record = true ↔ record ∈ scope.records := by
  rw [has_eq_true, records, List.mem_map]

theorem fitsForward_iff (key : ForeignKey) :
    (key.target = request.record && key.columns.contains request.on.name) = true ↔
      FitsForward request key := by
  simp [FitsForward]

theorem fitsBackward_iff (key : ForeignKey) :
    (key.columns.contains request.on.name && scope.has key.target) = true ↔
      scope.FitsBackward request key := by
  simp [FitsBackward, has_eq_true_iff_mem]

theorem exists_connects :
    (∃ on, scope.Connects joined request on) ↔
      (∃ owner ∈ scope.tables, owner.record = request.on.record ∧
        ∃ key ∈ owner.foreignKeys, FitsForward request key) ∨
      (request.on.record = request.record ∧
        ∃ key ∈ joined.foreignKeys, scope.FitsBackward request key) := by
  constructor
  · rintro ⟨on, connects⟩
    cases connects with
    | forward member own first =>
        exact .inl ⟨_, member, own, (exists_isFirst fitsForward_iff).mp ⟨_, first⟩⟩
    | backward own first => exact .inr ⟨own, (exists_isFirst fitsBackward_iff).mp ⟨_, first⟩⟩
  · rintro (⟨owner, member, own, fitting⟩ | ⟨own, fitting⟩)
    · obtain ⟨key, first⟩ := (exists_isFirst fitsForward_iff).mpr fitting
      exact ⟨_, .forward member own first⟩
    · obtain ⟨key, first⟩ := (exists_isFirst fitsBackward_iff).mpr fitting
      exact ⟨_, .backward own first⟩

theorem forwardPairs?_eq_some (distinct : scope.records.Nodup)
    (unused : request.record ∉ scope.records) (same : joined.record = request.record)
    {owner : Table} (member : owner ∈ scope.tables) (own : owner.record = request.on.record) :
    forwardPairs? owner request = some on ↔ scope.Connects joined request on := by
  have named {key : ForeignKey} (target : key.target = request.record) (property : String) :
      joined.key property = ⟨key.target, property⟩ := by
    rw [target, ← same]
    rfl
  simp only [forwardPairs?, Option.map_eq_some_iff, find?_eq_some_iff_isFirst fitsForward_iff]
  constructor
  · rintro ⟨key, first, rfl⟩
    simp only [← named first.1.1]
    exact .forward member own first
  · intro connects
    cases connects with
    | @forward other key other_member other_own first =>
        obtain rfl : other = owner := List.inj_on_of_nodup_map distinct other_member member
          (other_own.trans own.symm)
        exact ⟨key, first, by simp only [named first.1.1]⟩
    | backward own' first =>
        rw [← own', ← own] at unused
        exact absurd (record_mem member) unused

theorem backwardPairs?_eq_some (outside : request.on.record ∉ scope.records)
    (own : request.on.record = request.record) :
    scope.backwardPairs? joined request = some on ↔ scope.Connects joined request on := by
  simp only [backwardPairs?, Option.map_eq_some_iff, find?_eq_some_iff_isFirst fitsBackward_iff]
  constructor
  · rintro ⟨key, first, rfl⟩
    exact .backward own first
  · intro connects
    cases connects with
    | forward member own' first =>
        exact absurd (own' ▸ record_mem member) outside
    | backward _ first => exact ⟨_, first, rfl⟩

/-- The pairs of a join are those of the first key that fits, unless the property is of no table
that takes part. -/
theorem pairs_cases (distinct : scope.records.Nodup) (unused : request.record ∉ scope.records)
    (same : joined.record = request.record) :
    (request.on.record ∉ scope.records ∧ request.on.record ≠ request.record ∧
      scope.pairs joined request =
        .error (.validation (.unrelatedColumn request.on joined.name))) ∨
    ((request.on.record ∈ scope.records ∨ request.on.record = request.record) ∧
      ∃ found, scope.pairs joined request =
          expect (.mapping (.noLink request.on joined.name)) found ∧
        ∀ on, found = some on ↔ scope.Connects joined request on) := by
  unfold pairs
  split
  · rename_i owner found
    have member := List.mem_of_find?_eq_some found
    have own : owner.record = request.on.record := by simpa using List.find?_some found
    refine .inr ⟨.inl (own ▸ record_mem member), _, rfl, fun on => ?_⟩
    exact forwardPairs?_eq_some distinct unused same member own
  · rename_i none
    have outside : request.on.record ∉ scope.records := by
      simpa [records] using none
    split
    · rename_i own
      exact .inr ⟨.inr own, _, rfl, fun on => backwardPairs?_eq_some outside own⟩
    · rename_i other
      exact .inl ⟨outside, other, rfl⟩

end Pairs

/-! ## Joins that are accepted and joins that are refused -/

/-- The error with which a join is refused. The record type must have a table that is not in scope
yet, then the property must be of a record type in scope or of the joined one, and then there must
be a key. -/
inductive Refuses (registry : Registry) (scope : Scope) (request : JoinRequest) : Error → Prop
  | unmapped (none : registry.table? request.record = none) :
      Refuses registry scope request (.validation (.unmappedRecord request.record))
  | repeated {joined : Table} (found : registry.table? request.record = some joined)
      (used : request.record ∈ scope.records) :
      Refuses registry scope request (.validation (.alreadyJoined joined.name))
  | unrelated {joined : Table} (found : registry.table? request.record = some joined)
      (unused : request.record ∉ scope.records) (outside : request.on.record ∉ scope.records)
      (other : request.on.record ≠ request.record) :
      Refuses registry scope request (.validation (.unrelatedColumn request.on joined.name))
  | noKey {joined : Table} (found : registry.table? request.record = some joined)
      (unused : request.record ∉ scope.records)
      (related : request.on.record ∈ scope.records ∨ request.on.record = request.record)
      (none : ∀ on, ¬scope.Connects joined request on) :
      Refuses registry scope request (.mapping (.noLink request.on joined.name))

section Joins

variable {registry : Registry} {scope : Scope} {request : JoinRequest}

/-- A join is accepted if its table is not in scope yet and some key fits, and it goes along the
first one. -/
theorem join_eq_ok_iff_connects (distinct : scope.records.Nodup) {next : Scope} :
    scope.join registry request = .ok next ↔
      ∃ joined on, registry.table? request.record = some joined ∧
        request.record ∉ scope.records ∧ scope.Connects joined request on ∧
        ⟨scope.root, scope.joins ++ [⟨request.kind, joined, on⟩]⟩ = next := by
  rw [join_eq_ok]
  refine exists_congr fun joined => exists_congr fun on => and_congr_right fun found => ?_
  rw [← Bool.not_eq_true, has_eq_true_iff_mem]
  refine and_congr_right fun unused => and_congr_left fun _ => ?_
  have same := (Registry.table?_eq_some found).2
  rcases pairs_cases distinct unused same with ⟨outside, other, refused⟩ |
    ⟨-, pairs, resolved, connects⟩
  · rw [refused]
    constructor
    · intro impossible
      cases impossible
    · intro connects
      cases connects with
      | forward member own first => exact absurd (own ▸ record_mem member) outside
      | backward own first => exact absurd own other
  · rw [resolved, expect_eq_ok, connects]

theorem join_of_pairs_eq_error {joined : Table}
    (found : registry.table? request.record = some joined) (unused : request.record ∉ scope.records)
    {error : Error} (stops : scope.pairs joined request = .error error) :
    scope.join registry request = .error error := by
  rw [← has_eq_true_iff_mem, Bool.not_eq_true] at unused
  simp [join, Registry.requested, found, unused, stops, bind_eq_error]

/-- A join is refused for its first obstacle. -/
theorem join_eq_error_iff_refuses (distinct : scope.records.Nodup) {error : Error} :
    scope.join registry request = .error error ↔ Refuses registry scope request error := by
  constructor
  · intro refused
    simp only [join, Registry.requested, bind_eq_error, expect_eq_error, expect_eq_ok,
      ensure_eq_error, ensure_eq_ok, Bool.not_eq_false, has_eq_true_iff_mem] at refused
    obtain ⟨none, rfl⟩ | ⟨joined, found, ⟨used, rfl⟩ | ⟨_, unused, stops⟩⟩ := refused
    · exact .unmapped none
    · exact .repeated found used
    · rw [← Bool.not_eq_true, has_eq_true_iff_mem] at unused
      have paired : scope.pairs joined request = .error error := by
        rcases stops with stops | ⟨on, -, impossible⟩
        · exact stops
        · cases impossible
      rcases pairs_cases distinct unused (Registry.table?_eq_some found).2 with
        ⟨outside, other, refused⟩ | ⟨related, pairs, resolved, connects⟩
      · obtain rfl := Except.error.inj (refused.symm.trans paired)
        exact .unrelated found unused outside other
      · obtain ⟨rfl, rfl⟩ := expect_eq_error.mp (resolved.symm.trans paired)
        exact .noKey found unused related fun on connected => by
          cases (connects on).mpr connected
  · intro refuses
    cases refuses with
    | unmapped none => simp [join, Registry.requested, none, bind_eq_error]
    | repeated found used =>
        have present := has_eq_true_iff_mem.mpr used
        simp [join, Registry.requested, found, present, bind_eq_error]
    | unrelated found unused outside other =>
        refine join_of_pairs_eq_error found unused ?_
        rcases pairs_cases distinct unused (Registry.table?_eq_some found).2 with
          ⟨-, -, refused⟩ | ⟨related, -⟩
        · exact refused
        · exact absurd related (not_or.mpr ⟨outside, other⟩)
    | noKey found unused related none =>
        refine join_of_pairs_eq_error found unused ?_
        rcases pairs_cases distinct unused (Registry.table?_eq_some found).2 with
          ⟨outside, other, -⟩ | ⟨-, pairs, resolved, connects⟩
        · exact absurd related (not_or.mpr ⟨outside, other⟩)
        · rw [resolved, expect_eq_error]
          exact ⟨Option.eq_none_iff_forall_ne_some.mpr fun on same =>
            none on ((connects on).mp same), rfl⟩

end Joins

end Scope

/-! ## Requests with one more join -/

namespace Source

variable {registry : Registry} {source : Source} {scope : Scope}

theorem ofSource_append (in_scope : Scope.ofSource registry source = .ok scope)
    (later : List JoinRequest) (filter : Option Predicate) :
    Scope.ofSource registry ⟨source.root, source.joins ++ later, filter⟩ =
      later.foldlM (Scope.join registry) scope := by
  obtain ⟨root, found, joined⟩ := Scope.ofSource_eq_ok.mp in_scope
  have requested : registry.requested source.root = .ok root := expect_eq_ok.mpr found
  have folded : (source.joins ++ later).foldlM (Scope.join registry) ⟨root, []⟩ =
      later.foldlM (Scope.join registry) scope := by
    rw [List.foldlM_append, joined]
    rfl
  rw [Scope.ofSource, requested]
  exact folded

theorem ofSource_join (in_scope : Scope.ofSource registry source = .ok scope)
    (request : JoinRequest) :
    Scope.ofSource registry (source.join request) = scope.join registry request := by
  have appended := ofSource_append in_scope [request] source.filter
  rw [List.foldlM_cons] at appended
  exact appended.trans (bind_pure _)

/-- Whatever is asked for behind a refused join, its error is the answer. -/
theorem compile_of_refused (in_scope : Scope.ofSource registry source = .ok scope)
    {request : JoinRequest} {error : Error} (refused : scope.join registry request = .error error)
    (later : List JoinRequest) (filter : Option Predicate) (row : RowRequest) :
    row.compile registry ⟨source.root, source.joins ++ request :: later, filter⟩ =
      .error error := by
  have stops : Scope.ofSource registry
      ⟨source.root, source.joins ++ request :: later, filter⟩ = .error error := by
    rw [ofSource_append in_scope, List.foldlM_cons, refused]
    rfl
  rw [RowRequest.compile_eq, RowRequest.statement_eq, Source.resolve, stops]
  rfl

/-- A table that is joined takes part in every statement that goes on from there: its place is
behind the joins before it, and all its pairs are written. -/
theorem exists_join_of_resolve (valid : registry.Valid)
    (in_scope : Scope.ofSource registry source = .ok scope) {request : JoinRequest} {table : Table}
    {on : List (PropertyKey × PropertyKey)}
    (joins : scope.join registry request =
      .ok ⟨scope.root, scope.joins ++ [⟨request.kind, table, on⟩]⟩)
    {later : List JoinRequest} {filter : Option Predicate} {resolved : ResolvedSource}
    (found : resolve registry ⟨source.root, source.joins ++ request :: later, filter⟩ =
      .ok resolved) :
    ∃ earlier written rest,
      resolved.joins = earlier ++ ⟨request.kind, table.name, written⟩ :: rest ∧
        earlier.length = source.joins.length ∧
        List.Forall₂ (Scope.Writes scope.tables table) on written := by
  obtain ⟨final_scope, -, written⟩ := resolve_eq_ok.mp found
  have sound := Scope.sound_of_ofSource valid final_scope
  rw [ofSource_append in_scope, List.foldlM_cons, joins] at final_scope
  obtain ⟨root_eq, after, joins_eq⟩ := Scope.exists_joins_of_foldlM final_scope
  have split : resolved.scope.joins = scope.joins ++ ⟨request.kind, table, on⟩ :: after := by
    simpa using joins_eq
  obtain ⟨pairs, own, related⟩ := sound.exists_joinClause valid.toSound split
  rw [root_eq] at related
  rw [split] at written
  obtain ⟨earlier, _, earlier_written, others, joins_eq⟩ := mapM_append_eq_ok.mp written
  obtain ⟨_, rest, own_written, -, rfl⟩ := mapM_cons_eq_ok.mp others
  obtain rfl := Except.ok.inj (own.symm.trans own_written)
  refine ⟨earlier, pairs, rest, joins_eq.symm, ?_, related⟩
  have lengths := congrArg List.length (Scope.map_joinClause earlier_written)
  have requested := congrArg List.length (Scope.joins_of_ofSource in_scope).2
  simp only [List.length_map] at lengths requested
  exact lengths.trans requested

theorem exists_resolve_unfiltered (valid : registry.Valid)
    (in_scope : Scope.ofSource registry source = .ok scope) :
    ∃ resolved, source.unfiltered.resolve registry = .ok resolved := by
  have sound := Scope.sound_of_ofSource valid in_scope
  obtain ⟨joins, written⟩ := sound.exists_joinClauses valid.toSound
  exact ⟨⟨scope, joins, none⟩, resolve_eq_ok.mpr ⟨in_scope, rfl, written⟩⟩

end Source

/-- In a registry that declarations lead to, with the foreign keys of columns before those of the
table, a table is joined if it is not in scope yet and a foreign key fits that connects it, one of
the table in scope whose property the join names or one of its own. The join goes along the first
such key: all pairs of the key are written, those of the table in scope in front, in every statement
that goes on from there. Otherwise the join is refused for its first obstacle, and so is whatever is
asked for behind it. -/
theorem joins_go_along_first_key {dialect : Dialect} {declarations : List TableDeclaration}
    {draft : Draft} (declared : draft.Declares dialect declarations) {registry : Registry}
    (builds : draft.build = .ok registry) {source : Source} {scope : Scope}
    (in_scope : Scope.ofSource registry source = .ok scope) (request : JoinRequest) :
    List.Forall₂ TableDeclaration.Describes declarations registry.tables ∧
      ((∃ next, Scope.ofSource registry (source.join request) = .ok next) ↔
        ∃ joined, registry.table? request.record = some joined ∧
          request.record ∉ scope.records ∧
          ((∃ owner ∈ scope.tables, owner.record = request.on.record ∧
              ∃ key ∈ owner.foreignKeys, Scope.FitsForward request key) ∨
            (request.on.record = request.record ∧
              ∃ key ∈ joined.foreignKeys, scope.FitsBackward request key))) ∧
      (∀ next, Scope.ofSource registry (source.join request) = .ok next →
        (∃ resolved, (source.join request).unfiltered.resolve registry = .ok resolved) ∧
        ∃ joined on, registry.table? request.record = some joined ∧
          scope.Connects joined request on ∧
          next = ⟨scope.root, scope.joins ++ [⟨request.kind, joined, on⟩]⟩ ∧
          ∀ later filter resolved, Source.resolve registry
              ⟨source.root, source.joins ++ request :: later, filter⟩ = .ok resolved →
            ∃ earlier written rest,
              resolved.joins = earlier ++ ⟨request.kind, joined.name, written⟩ :: rest ∧
                earlier.length = source.joins.length ∧
                List.Forall₂ (Scope.Writes scope.tables joined) on written) ∧
      ∀ error,
        (Scope.ofSource registry (source.join request) = .error error ↔
          Scope.Refuses registry scope request error) ∧
        (Scope.Refuses registry scope request error → ∀ later filter, ∀ row : RowRequest,
          row.compile registry ⟨source.root, source.joins ++ request :: later, filter⟩ =
            .error error) := by
  have valid := (declared.built builds).valid
  have distinct := (Scope.sound_of_ofSource valid in_scope).records_nodup
  simp only [Source.ofSource_join in_scope]
  refine ⟨(declared.describes builds).2, ?_, fun next accepted => ⟨?_, ?_⟩, fun error => ⟨?_, ?_⟩⟩
  · simp only [Scope.join_eq_ok_iff_connects distinct, ← Scope.exists_connects]
    constructor
    · rintro ⟨_, joined, on, found, unused, connects, -⟩
      exact ⟨joined, found, unused, on, connects⟩
    · rintro ⟨joined, found, unused, on, connects⟩
      exact ⟨_, joined, on, found, unused, connects, rfl⟩
  · rw [← Source.ofSource_join in_scope] at accepted
    exact Source.exists_resolve_unfiltered valid accepted
  · obtain ⟨joined, on, found, -, connects, rfl⟩ :=
      (Scope.join_eq_ok_iff_connects distinct).mp accepted
    exact ⟨joined, on, found, connects, rfl, fun later filter resolved =>
      Source.exists_join_of_resolve valid in_scope accepted⟩
  · exact Scope.join_eq_error_iff_refuses distinct
  · intro refuses later filter row
    have refused := (Scope.join_eq_error_iff_refuses distinct).mpr refuses
    exact Source.compile_of_refused in_scope refused later filter row

namespace Staff

/-- The reports are to be joined through one of their properties. -/
def withReports (property : String) : JoinRequest := ⟨.inner, report, ⟨report, property⟩⟩

/-- Reports are joined to duties along both columns of their foreign key, with those of the duties
in front. Their numbers are of no key, so that rows cannot be joined through them, nor removed. -/
theorem reports_joined_to_duties :
    ∃ draft, Draft.Declares .sqlite (declarations ++ [duties, reports]) draft ∧
      draft.build = .ok (rota .sqlite) ∧
      ∃ scope, Scope.ofSource (rota .sqlite) (Source.all duty) = .ok scope ∧
        (∃ table, (rota .sqlite).table? report = some table ∧
          scope.Connects table (withReports "on_role")
            [(⟨duty, "role"⟩, ⟨report, "on_role"⟩), (⟨duty, "user"⟩, ⟨report, "on_user"⟩)]) ∧
        (∃ resolved, ((Source.all duty).join (withReports "on_role")).resolve (rota .sqlite) =
            .ok resolved ∧
          resolved.joins = [⟨.inner, "reports",
            [(⟨"duties", "role"⟩, ⟨"reports", "on_role"⟩),
              (⟨"duties", "user"⟩, ⟨"reports", "on_user"⟩)]⟩]) ∧
        RowRequest.delete.compile (rota .sqlite) ((Source.all duty).join (withReports "id")) =
          .error (.mapping (.noLink ⟨report, "id"⟩ "reports")) := by
  obtain ⟨draft, declared, builds⟩ := rota_declared
  obtain ⟨scope, in_scope, refused⟩ : ∃ scope,
      Scope.ofSource (rota .sqlite) (Source.all duty) = .ok scope ∧
        Scope.ofSource (rota .sqlite) ((Source.all duty).join (withReports "id")) =
          .error (.mapping (.noLink ⟨report, "id"⟩ "reports")) :=
    ⟨_, rfl, rfl⟩
  refine ⟨draft, declared, builds, scope, in_scope, ?_, ?_, ?_⟩
  · obtain ⟨-, -, accepted, -⟩ :=
      joins_go_along_first_key declared builds in_scope (withReports "on_role")
    obtain ⟨-, table, on, mapped, connects, same, -⟩ := accepted _ rfl
    cases in_scope
    cases same
    exact ⟨_, mapped, connects⟩
  · exact ⟨_, rfl, rfl⟩
  · obtain ⟨-, -, -, refuses⟩ :=
      joins_go_along_first_key declared builds in_scope (withReports "id")
    obtain ⟨exactly, everywhere⟩ := refuses (.mapping (.noLink ⟨report, "id"⟩ "reports"))
    exact everywhere (exactly.mp refused) [] none .delete

end Staff

end TableMapping
