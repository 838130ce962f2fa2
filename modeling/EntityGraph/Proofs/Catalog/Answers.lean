import EntityGraph.Proofs.Lists
import EntityGraph.Proofs.Relation.Describing
import EntityGraph.Proofs.Schema.Columns

/-!
# Answers of a catalog

A catalog is asked for names in snake_case, for columns and for schemas, and told to forget names
and columns. What it remembers, evicts and forgets on the way never shows in an answer
(`answers_direct`). A catalog that was asked for some types holds the schema of each of them once,
in the order in which they were first asked for, and remembers columns of these types only
(`Catalog.Records`); every call keeps it so.
-/

namespace EntityGraph

/-- A use of a catalog. -/
inductive CatalogCall where
  | snakeCase (name : String)
  | resolve (type name : String)
  | schema (type : String)
  | clearCaches
  deriving DecidableEq, Repr

inductive CatalogAnswer where
  | name (name : String)
  | column (column : Option String)
  | schema (s : Schema)
  | done

namespace CatalogCall

section
variable {reg : Registry} {σ : Type}

def run : CatalogCall → Run reg σ CatalogAnswer
  | snakeCase name => .name <$> Run.snakeCase name
  | resolve type name => .column <$> Run.resolve type name
  | schema type => (fun s => .schema s.val) <$> Run.schema type
  | clearCaches => (fun _ => .done) <$> Run.onCatalog fun c => ((), c.clearCaches)

/-- The world after some calls. A call that fails changes the world as far as it got. -/
def after (w : World reg σ) (calls : List CatalogCall) : World reg σ :=
  calls.foldl (fun w call => (call.run.run w).2) w

/-- What the calls answer, one after the other. -/
def answers (w : World reg σ) : List CatalogCall → List (Except Error CatalogAnswer)
  | [] => []
  | call :: rest => (call.run.run w).1 :: answers (call.run.run w).2 rest

end

variable (reg : Registry)

/-- The answer without any cache: a name stands for the column of that name, else for the column of
the field of that name, else for the column that is its snake_case. -/
def direct : CatalogCall → Except Error CatalogAnswer
  | snakeCase name => .ok (.name (Text.snakeCase name))
  | resolve type name =>
    (reg.schema type).map fun s =>
      let found := ((s.column? name).or (s.field? name)).or (s.column? (Text.snakeCase name))
      .column (found.map ColumnInfo.column)
  | schema type => (reg.schema type).map .schema
  | clearCaches => .ok .done

/-- The type whose schema a call asks for, if the type has one. -/
def types : CatalogCall → List String
  | resolve type _ | schema type =>
    match reg.schema type with
    | .ok _ => [type]
    | .error _ => []
  | snakeCase _ | clearCaches => []

end CatalogCall

/-! ### What a catalog records -/

namespace Catalog

variable {reg : Registry}

/-- The catalog of somebody who asked for these types. -/
structure Records (c : Catalog reg) (asked : List String) : Prop where
  types_eq : c.schemas.map Prod.fst = asked.eraseDups
  columns_known : c.columns.cache.Holds fun key _ => key.1 ∈ asked

/-- An empty catalog whose caches find shards by these hashes. -/
def hashed (reg : Registry) (config : CatalogConfig) (nameHash : String → Nat)
    (columnHash : String × String → Nat) : Catalog reg :=
  { empty reg config with
    casing := .empty _ nameHash config.capacity config.shards
    columns := .empty _ columnHash config.capacity config.shards }

theorem records_hashed (config : CatalogConfig) (nameHash : String → Nat)
    (columnHash : String × String → Nat) : (hashed reg config nameHash columnHash).Records [] :=
  ⟨rfl, Cache.Sharded.holds_empty _ _ _⟩

variable {c : Catalog reg} {asked : List String} {type : String}

theorem known?_eq_none (h : c.known? type = none) : type ∉ c.schemas.map Prod.fst := by
  unfold known? at h
  split at h
  · cases h
  · next hnone =>
    rw [List.lookup_eq_none_iff] at hnone
    rintro hmem
    obtain ⟨p, hp, rfl⟩ := List.mem_map.1 hmem
    simpa using hnone p hp

theorem mem_of_known? {s : { s : Schema // reg.schema type = .ok s }}
    (h : c.known? type = some s) : type ∈ c.schemas.map Prod.fst := by
  unfold known? at h
  split at h
  · next found hfound => exact List.mem_map_of_mem (mem_of_lookup hfound)
  · cases h

theorem Records.mem_iff (h : c.Records asked) : type ∈ c.schemas.map Prod.fst ↔ type ∈ asked := by
  rw [h.types_eq, List.mem_eraseDups]

theorem Records.exists_schema (h : c.Records asked) (htype : type ∈ asked) :
    ∃ s, reg.schema type = .ok s := by
  obtain ⟨⟨_, s⟩, hp, rfl⟩ := List.mem_map.1 (h.mem_iff.2 htype)
  exact ⟨s, c.schemas_sound _ hp⟩

/-- A type that was asked for already is not recorded anew. -/
theorem Records.again (h : c.Records asked) (htype : type ∈ asked) :
    c.Records (asked ++ [type]) where
  types_eq := by rw [eraseDups_concat, if_pos htype, h.types_eq]
  columns_known := fun s hs e he => List.mem_append_left _ (h.columns_known s hs e he)

theorem Records.takeEvicted (h : c.Records asked) : c.takeEvicted.2.Records asked :=
  ⟨h.types_eq, h.columns_known⟩

theorem Records.snakeCase (h : c.Records asked) (name : String) :
    (c.snakeCase name).2.Records asked :=
  ⟨h.types_eq, h.columns_known⟩

theorem Records.clearCaches (h : c.Records asked) : c.clearCaches.Records asked :=
  ⟨h.types_eq, Cache.Sharded.holds_clear⟩

theorem Records.remembered (h : c.Records asked) (type name : String) :
    (c.remembered type name).2.Records asked :=
  ⟨h.types_eq, Cache.Sharded.holds_load h.columns_known _⟩

theorem Records.build (h : c.Records asked) (hnew : type ∉ asked)
    (hcolumns : (reg.get type).columns.isEmpty = false) :
    (c.build type hcolumns).2.Records (asked ++ [type]) where
  types_eq := by
    rw [eraseDups_concat, if_neg hnew, ← h.types_eq]
    exact List.map_append
  columns_known := fun s hs e he => List.mem_append_left _ (h.columns_known s hs e he)

theorem Records.resolve (h : c.Records asked) (htype : type ∈ asked) (name : String) {s : Schema}
    (hs : reg.schema type = .ok s) : (c.resolve type name s hs).2.Records asked := by
  unfold Catalog.resolve
  split
  · exact ⟨h.types_eq, Cache.Sharded.holds_store h.columns_known htype⟩
  · exact ⟨h.types_eq, Cache.Sharded.holds_store h.columns_known htype⟩

/-- A column that is remembered is one of a type that was asked for. -/
theorem Records.mem_of_remembered (h : c.Records asked) {name : String} {found : Option String}
    (hfound : (c.remembered type name).1 = some found) : type ∈ asked :=
  Cache.Sharded.load_some h.columns_known hfound

end Catalog

/-- A name stands for the first of three: the column of that name, the column of the field of that
name, and the column that is its snake_case. -/
theorem Schema.resolve_eq (s : Schema) (name : String) :
    s.resolve name =
      (((s.column? name).or (s.field? name)).or (s.column? (Text.snakeCase name))).map
        ColumnInfo.column := by
  rw [Schema.resolve, Schema.named?, Option.orElse_eq_orElse, Option.orElse_eq_or]
  cases (s.column? name).or (s.field? name) <;> rfl

/-! ### Runs on a catalog -/

namespace Run

variable {reg : Registry} {σ α β : Type} {asked : List String} {type : String}

/-- A run comes to an answer, and leaves behind the catalog of somebody who asked for these
types. -/
def Records (x : Run reg σ α) (w : World reg σ) (answer : Except Error α) (asked : List String) :
    Prop :=
  (x.run w).1 = answer ∧ (x.run w).2.catalog.Records asked

theorem Records.pure {w : World reg σ} (h : w.catalog.Records asked) (a : α) :
    Records (Pure.pure a : Run reg σ α) w (.ok a) asked :=
  ⟨rfl, h⟩

theorem Records.throw {w : World reg σ} (h : w.catalog.Records asked) (e : Error) :
    Records (MonadExcept.throw e : Run reg σ α) w (.error e) asked :=
  ⟨rfl, h⟩

theorem Records.bind {x : Run reg σ α} {f : α → Run reg σ β} {w : World reg σ} {a : α}
    {asked' : List String} {answer : Except Error β} (hx : Records x w (.ok a) asked)
    (hf : ∀ w' : World reg σ, w'.catalog.Records asked → Records (f a) w' answer asked') :
    Records (x >>= f) w answer asked' := by
  obtain ⟨hok, hrecords⟩ := hx
  rw [Records, run_bind]
  rcases hrun : x.run w with ⟨r, w'⟩
  rw [hrun] at hok hrecords
  obtain rfl : r = .ok a := hok
  exact hf w' hrecords

theorem Records.bind_error {x : Run reg σ α} {w : World reg σ} {why : Error}
    (hx : Records x w (.error why) asked) (f : α → Run reg σ β) :
    Records (x >>= f) w (.error why) asked := by
  obtain ⟨herror, hrecords⟩ := hx
  rw [Records, run_bind]
  rcases hrun : x.run w with ⟨r, w'⟩
  rw [hrun] at herror hrecords
  obtain rfl : r = .error why := herror
  exact ⟨rfl, hrecords⟩

theorem Records.map {x : Run reg σ α} {w : World reg σ} {answer : Except Error α} (f : α → β)
    (hx : Records x w answer asked) : Records (f <$> x) w (answer.map f) asked := by
  obtain ⟨rfl, hrecords⟩ := hx
  rw [Records, map_eq_pure_bind, run_bind]
  rcases hrun : x.run w with ⟨_ | a, w'⟩ <;> rw [hrun] at hrecords <;> exact ⟨rfl, hrecords⟩

variable {w : World reg σ}

theorem records_onCatalog {f : Catalog reg → α × Catalog reg}
    (h : (f w.catalog).2.Records asked) :
    Records (onCatalog f) w (.ok (f w.catalog).1) asked :=
  ⟨rfl, h.takeEvicted⟩

theorem records_emit (h : w.catalog.Records asked) (e : Event) :
    Records (emit e : Run reg σ Unit) w (.ok ()) asked :=
  ⟨rfl, h⟩

/-- What reads the world goes on with it. -/
theorem records_get_bind {f : World reg σ → Run reg σ α} {answer : Except Error α}
    (h : Records (f w) w answer asked) : Records (get >>= f) w answer asked :=
  h

theorem records_forM_emit (h : w.catalog.Records asked) (l : List α) (e : α → Event) :
    Records (l.forM fun a => emit (e a) : Run reg σ PUnit) w (.ok ()) asked := by
  induction l generalizing w with
  | nil => exact .pure h ()
  | cons a l ih => exact (records_emit h (e a)).bind fun w' h' => ih h'

/-- A type with columns is asked for once its schema is. -/
theorem records_schema (h : w.catalog.Records asked) {s : Schema} (hs : reg.schema type = .ok s) :
    Records (schema type) w (.ok ⟨s, hs⟩) (asked ++ [type]) := by
  have hsole : ∀ s' : { s : Schema // reg.schema type = .ok s }, s' = ⟨s, hs⟩ := fun s' =>
    Subtype.ext (Except.ok.inj (s'.property.symm.trans hs))
  refine records_get_bind ?_
  cases hknown : w.catalog.known? type with
  | some s' =>
    obtain rfl := hsole s'
    exact .pure (h.again (h.mem_iff.1 (Catalog.mem_of_known? hknown))) _
  | none =>
    have hnew : type ∉ asked := fun hmem => Catalog.known?_eq_none hknown (h.mem_iff.2 hmem)
    have hcolumns : (reg.get type).columns.isEmpty = false := by
      cases hempty : (reg.get type).columns.isEmpty with
      | false => rfl
      | true => simp [Registry.schema, hempty] at hs
    refine (records_forM_emit h _ _).bind fun w₁ h₁ => ?_
    rw [dif_pos hcolumns]
    refine (records_onCatalog (h₁.build hnew hcolumns)).bind fun w₂ h₂ => ?_
    refine (records_emit h₂ _).bind fun w₃ h₃ => (records_emit h₃ _).bind fun w₄ h₄ => ?_
    rw [hsole (w₁.catalog.build type hcolumns).1]
    exact .pure h₄ _

/-- A type without columns fails, and is not asked for. -/
theorem records_schema_error (h : w.catalog.Records asked) {why : Error}
    (hs : reg.schema type = .error why) : Records (schema type) w (.error why) asked := by
  refine records_get_bind ?_
  cases hknown : w.catalog.known? type with
  | some s => simp [s.property] at hs
  | none =>
    unfold Registry.schema at hs
    split at hs
    · next hempty =>
      cases hs
      refine (records_forM_emit h _ _).bind fun w₁ h₁ => ?_
      rw [dif_neg (by simp [hempty])]
      exact .throw h₁ _
    · cases hs

theorem records_resolve (h : w.catalog.Records asked) {s : Schema} (hs : reg.schema type = .ok s)
    (name : String) :
    Records (resolve type name) w (.ok (s.resolve name)) (asked ++ [type]) := by
  have hremembered := records_onCatalog (f := (·.remembered type name)) (h.remembered type name)
  refine hremembered.bind fun w₁ h₁ => ?_
  cases hfound : (w.catalog.remembered type name).1 with
  | some found =>
    have hvalue : found = s.resolve name := by
      rw [← Catalog.resolve_of_schema hs]
      exact w.catalog.columns.find?_some hfound
    rw [hvalue]
    exact .pure (h₁.again (h.mem_of_remembered hfound)) _
  | none =>
    refine (records_schema h₁ hs).bind fun w₂ h₂ => ?_
    rw [← w₂.catalog.fst_resolve hs name]
    exact records_onCatalog (h₂.resolve (List.mem_append_right _ (by simp)) name hs)

theorem records_resolve_error (h : w.catalog.Records asked) {why : Error}
    (hs : reg.schema type = .error why) (name : String) :
    Records (resolve type name) w (.error why) asked := by
  have hremembered := records_onCatalog (f := (·.remembered type name)) (h.remembered type name)
  refine hremembered.bind fun w₁ h₁ => ?_
  cases hfound : (w.catalog.remembered type name).1 with
  | some found =>
    -- nothing is remembered of a type that has no schema
    obtain ⟨s, hs'⟩ := h.exists_schema (h.mem_of_remembered hfound)
    simp [hs'] at hs
  | none => exact (records_schema_error h₁ hs).bind_error _

end Run

namespace CatalogCall

variable {reg : Registry} {σ : Type} {w : World reg σ} {asked : List String}

/-- One call answers what is true without caches, and records the type that it needs. -/
theorem records_run (h : w.catalog.Records asked) (call : CatalogCall) :
    call.run.Records w (call.direct reg) (asked ++ call.types reg) := by
  cases call with
  | snakeCase name =>
    rw [types, List.append_nil, direct, ← w.catalog.snakeCase_fst name]
    exact (Run.records_onCatalog (h.snakeCase name)).map CatalogAnswer.name
  | resolve type name =>
    cases hs : reg.schema type with
    | ok s =>
      simp only [direct, types, hs, ← Schema.resolve_eq]
      exact (Run.records_resolve h hs name).map CatalogAnswer.column
    | error why =>
      simp only [direct, types, hs, List.append_nil]
      exact (Run.records_resolve_error h hs name).map CatalogAnswer.column
  | schema type =>
    cases hs : reg.schema type with
    | ok s =>
      simp only [direct, types, hs]
      exact (Run.records_schema h hs).map fun s => CatalogAnswer.schema s.val
    | error why =>
      simp only [direct, types, hs, List.append_nil]
      exact (Run.records_schema_error h hs).map fun s => CatalogAnswer.schema s.val
  | clearCaches =>
    rw [types, List.append_nil, direct]
    exact (Run.records_onCatalog h.clearCaches).map fun _ => CatalogAnswer.done

/-- So do the calls of a whole sequence. -/
theorem records_after (h : w.catalog.Records asked) (calls : List CatalogCall) :
    answers w calls = calls.map (direct reg) ∧
      (after w calls).catalog.Records (asked ++ calls.flatMap (types reg)) := by
  induction calls generalizing w asked with
  | nil => exact ⟨rfl, (List.append_nil asked).symm ▸ h⟩
  | cons call calls ih =>
    obtain ⟨hanswer, hrecords⟩ := records_run h call
    obtain ⟨hanswers, hafter⟩ := ih hrecords
    refine ⟨?_, ?_⟩
    · rw [answers, hanswer, hanswers, List.map_cons]
    · rw [List.append_assoc, ← List.flatMap_cons] at hafter
      exact hafter

theorem direct_resolve_eq_ok {type name : String} {column : Option String} :
    direct reg (.resolve type name) = .ok (.column column) ↔
      ∃ s, reg.schema type = .ok s ∧ s.resolve name = column := by
  simp only [direct, ← Schema.resolve_eq]
  cases reg.schema type <;> simp [Except.map]

/-- **The caches of a catalog are never seen.** Whatever their size, and whichever shard a key falls
into, calls answer what is true without caches. A name is resolved to a column that is mapped, that
every entity of the type has, and that is resolved to itself from then on. The catalog holds one
schema for every type that was asked for, and never loses one. -/
theorem answers_direct (config : CatalogConfig) (nameHash : String → Nat)
    (columnHash : String × String → Nat) (state : σ) (calls : List CatalogCall) :
    let start : World reg σ := { catalog := .hashed reg config nameHash columnHash, state := state }
    answers start calls = calls.map (direct reg) ∧
      (∀ type name column,
        (.resolve type name, .ok (.column (some column))) ∈ calls.zip (answers start calls) →
          answers (after start calls) [.resolve type column] = [.ok (.column (some column))] ∧
          ∃ s c, reg.schema type = .ok s ∧ c ∈ s.columns ∧ c.column = column ∧
            s.column? column = some c ∧
            ∀ record e, s.scan record = .ok e → ∃ v, e.cell? c.path = some ⟨c.type, v⟩) ∧
      (after start calls).catalog.schemas.map Prod.fst = (calls.flatMap (types reg)).eraseDups ∧
      ((after start calls).catalog.schemas.map Prod.fst).Nodup ∧
      ∀ earlier later, calls = earlier ++ later →
        (after start earlier).catalog.size ≤ (after start calls).catalog.size := by
  intro start
  have hstart : start.catalog.Records [] := Catalog.records_hashed config nameHash columnHash
  obtain ⟨hanswers, hrecords⟩ := records_after hstart calls
  have htypes := hrecords.types_eq
  rw [List.nil_append] at htypes
  refine ⟨hanswers, fun type name column hmem => ?_, htypes, ?_, ?_⟩
  · rw [hanswers, ← List.map_prod_left_eq_zip, List.mem_map] at hmem
    obtain ⟨call, -, heq⟩ := hmem
    obtain ⟨rfl, hdirect⟩ := Prod.mk.inj heq
    obtain ⟨s, hs, hresolve⟩ := direct_resolve_eq_ok.1 hdirect
    obtain ⟨_, hmapped, rfl⟩ := Schema.mem_of_resolve hresolve
    have hsome := Schema.isSome_column? hmapped
    obtain ⟨c, hc⟩ := Option.isSome_iff_exists.1 hsome
    have hcolumn := Schema.mem_of_column? hc
    refine ⟨?_, s, c, hs, hcolumn, Schema.column_of_column? hc, hc, fun record e hscan =>
      Schema.typed_scan hs hscan c hcolumn⟩
    rw [(records_after hrecords _).1, List.map_singleton, List.singleton_inj]
    exact direct_resolve_eq_ok.2 ⟨s, hs, Schema.resolve_of_isSome hsome⟩
  · rw [htypes]
    exact nodup_eraseDups _
  · rintro earlier later rfl
    obtain ⟨-, hearlier⟩ := records_after hstart earlier
    have hgrown : (after start earlier).catalog.schemas.map Prod.fst <+:
        (after start (earlier ++ later)).catalog.schemas.map Prod.fst := by
      rw [htypes, hearlier.types_eq, List.nil_append, List.flatMap_append, List.eraseDups_append]
      exact List.prefix_append _ _
    simpa only [Catalog.size, List.length_map] using hgrown.length_le

/-! A report whose headline has a column of another name, and a draft without columns. -/

def reportRegistry : Registry :=
  ⟨[{ type := "Report", table := some "reports", members :=
        [.column "id" (.int .i64) (some "id") true false,
          .column "headLine" .text (some "title") false false,
          .column "seen_at" .text (some "seen_at") false false] },
    { type := "Draft" }]⟩

/-- Calls that find nothing twice, and columns by a field, by another spelling and by their name. -/
def reportCalls : List CatalogCall :=
  [.resolve "Report" "author", .resolve "Report" "headLine", .snakeCase "SeenAt",
    .resolve "Report" "author", .resolve "Report" "SeenAt", .clearCaches,
    .resolve "Report" "title", .schema "Draft"]

def reportWorld : World reportRegistry Unit where
  catalog := .hashed reportRegistry ⟨1, 1⟩ (fun _ => 0) fun _ => 0
  state := ()

theorem answers_direct_reports :
    (.resolve "Report" "SeenAt", .ok (.column (some "seen_at")))
        ∈ reportCalls.zip (answers reportWorld reportCalls) ∧
      answers (after reportWorld reportCalls) [.resolve "Report" "seen_at"]
        = [.ok (.column (some "seen_at"))] ∧
      (after reportWorld reportCalls).catalog.schemas.map Prod.fst = ["Report"] ∧
      (after reportWorld (reportCalls.take 3)).catalog.size
        ≤ (after reportWorld reportCalls).catalog.size := by
  obtain ⟨hanswers, hresolved, htypes, -, hsize⟩ :=
    @answers_direct reportRegistry Unit ⟨1, 1⟩ (fun _ => 0) (fun _ => 0) () reportCalls
  obtain ⟨s, hs⟩ : ∃ s, reportRegistry.schema "Report" = .ok s := ⟨_, rfl⟩
  have hdirect : direct reportRegistry (.resolve "Report" "SeenAt")
      = .ok (.column (some "seen_at")) := by
    refine direct_resolve_eq_ok.2 ⟨s, hs, ?_⟩
    cases hs
    decide +kernel
  have hmem : (.resolve "Report" "SeenAt", .ok (.column (some "seen_at")))
      ∈ reportCalls.zip (answers reportWorld reportCalls) := by
    rw [reportWorld, hanswers, ← List.map_prod_left_eq_zip, List.mem_map]
    exact ⟨.resolve "Report" "SeenAt", by decide, by rw [hdirect]⟩
  exact ⟨hmem, (hresolved _ _ _ hmem).1, htypes.trans (by decide +kernel),
    hsize (reportCalls.take 3) (reportCalls.drop 3) rfl⟩

end CatalogCall

end EntityGraph
