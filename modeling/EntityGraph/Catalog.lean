import EntityGraph.Cache.Memo
import EntityGraph.Schema.Basic

/-!
# Catalogs

The schemas that were asked for so far, and two caches: names in snake_case, and the columns that
names stand for. What is kept is a value of the registry's functions, so a catalog answers what
the registry says; it only answers faster.
-/

namespace EntityGraph

open Cache (Memo)

/-- Sizes of the caches; a capacity of zero means no bound. -/
structure CatalogConfig where
  capacity : Nat := 1024
  shards : Nat := 16
  deriving DecidableEq, Repr

/-- A number for each text, by which its shard is picked. -/
def textHash (s : String) : Nat := s.toList.foldl (fun h c => (h * 31 + c.toNat) % 4294967296) 7

structure Catalog (reg : Registry) where
  /-- The schemas in the order in which their types were first asked for. -/
  schemas : List (String × Schema)
  casing : Memo Text.snakeCase
  columns : Memo reg.resolve
  schemas_sound : ∀ p ∈ schemas, reg.schema p.1 = .ok p.2

namespace Catalog

variable {reg : Registry}

def empty (reg : Registry) (config : CatalogConfig) : Catalog reg where
  schemas := []
  casing := .empty _ textHash config.capacity config.shards
  columns := .empty _ (fun k => textHash k.1 * 7 + textHash k.2) config.capacity config.shards
  schemas_sound := by simp

def size (c : Catalog reg) : Nat := c.schemas.length

/-- Takes the slots that either cache evicted. -/
def takeEvicted (c : Catalog reg) : List Nat × Catalog reg :=
  (c.casing.takeEvicted.1 ++ c.columns.takeEvicted.1,
    { c with casing := c.casing.takeEvicted.2, columns := c.columns.takeEvicted.2 })

/-- Forgets names and columns; schemas stay. -/
def clearCaches (c : Catalog reg) : Catalog reg :=
  { c with casing := c.casing.clear, columns := c.columns.clear }

/-! ## Names -/

def snakeCase (c : Catalog reg) (s : String) : String × Catalog reg :=
  ((c.casing.get s).1, { c with casing := (c.casing.get s).2 })

@[simp] theorem snakeCase_fst (c : Catalog reg) (s : String) :
    (c.snakeCase s).1 = Text.snakeCase s := by
  simp [snakeCase]

/-! ## Schemas -/

theorem mem_of_lookup {α β : Type} [BEq α] [LawfulBEq α] {k : α} {v : β} {l : List (α × β)}
    (h : l.lookup k = some v) : (k, v) ∈ l := by
  induction l with
  | nil => simp at h
  | cons p l ih =>
    obtain ⟨a, b⟩ := p
    rw [List.lookup_cons] at h
    split at h
    · next hk =>
      simp only [beq_iff_eq] at hk
      simp only [Option.some.injEq] at h
      subst hk h
      simp
    · exact List.mem_cons_of_mem _ (ih h)

/-- The schema of a type, if it was asked for before. -/
def known? (c : Catalog reg) (type : String) : Option { s : Schema // reg.schema type = .ok s } :=
  match h : c.schemas.lookup type with
  | some s => some ⟨s, c.schemas_sound (type, s) (mem_of_lookup h)⟩
  | none => none

/-- Converting names through the cache yields what converting them directly does. -/
theorem columnWith_get (d : ColumnDecl) (m : Memo Text.snakeCase) :
    (Schema.columnWith (m := StateM (Memo Text.snakeCase)) (fun s m => m.get s) d m).1
      = Schema.columnWith (m := Id) (fun s => pure (Text.snakeCase s)) d := by
  obtain ⟨field, type, name, primaryKey, auto, path⟩ := d
  cases name with
  | some name => rfl
  | none => exact m.get_fst field

theorem mapM_columnWith_get (ds : List ColumnDecl) (m : Memo Text.snakeCase) :
    (ds.mapM (Schema.columnWith (m := StateM (Memo Text.snakeCase)) fun s m => m.get s) m).1
      = ds.mapM (Schema.columnWith (m := Id) fun s => pure (Text.snakeCase s)) := by
  induction ds generalizing m with
  | nil => rfl
  | cons d ds ih =>
    rw [List.mapM_cons, List.mapM_cons]
    show _ :: _ = _ :: _
    congr 1
    · exact columnWith_get d m
    · exact ih _

theorem buildWith_get (r : Registration) (m : Memo Text.snakeCase) :
    (Schema.buildWith (m := StateM (Memo Text.snakeCase)) (fun s m => m.get s) r m).1
      = Schema.build r := by
  have ht : ∀ m, (Schema.tableWith (m := StateM (Memo Text.snakeCase)) (fun s m => m.get s) r m).1
      = Schema.tableWith (m := Id) (fun s => pure (Text.snakeCase s)) r := by
    intro m
    obtain ⟨type, table, primaryKey, morphAlias, members⟩ := r
    cases table with
    | some table => rfl
    | none => exact congrArg (· ++ "s") (m.get_fst type)
  show Schema.assemble r _ _ = Schema.assemble r _ _
  congr 1
  · exact ht m
  · exact mapM_columnWith_get _ _

/-- Builds the schema of a type with columns and keeps it. -/
def build (c : Catalog reg) (type : String) (h : (reg.get type).columns.isEmpty = false) :
    { s : Schema // reg.schema type = .ok s } × Catalog reg :=
  let built :=
    Schema.buildWith (m := StateM (Memo Text.snakeCase)) (fun s m => m.get s) (reg.get type)
      c.casing
  have sound : reg.schema type = .ok built.1 := by
    simp only [Registry.schema, h, Bool.false_eq_true, if_false]
    rw [buildWith_get]
  (⟨built.1, sound⟩,
    { c with
      schemas := c.schemas ++ [(type, built.1)]
      casing := built.2
      schemas_sound := by
        intro p hp
        rcases List.mem_append.1 hp with hmem | hmem
        · exact c.schemas_sound p hmem
        · simp only [List.mem_singleton] at hmem
          subst hmem
          exact sound })

/-! ## Columns -/

/-- The remembered column of a name, which may be none. -/
def remembered (c : Catalog reg) (type name : String) : Option (Option String) × Catalog reg :=
  ((c.columns.find? (type, name)).1, { c with columns := (c.columns.find? (type, name)).2 })

theorem resolve_of_schema {type : String} {s : Schema} (h : reg.schema type = .ok s)
    (name : String) : reg.resolve (type, name) = s.resolve name := by
  simp [Registry.resolve, h]

/-- Resolves a name on a schema and remembers the column. -/
def resolve (c : Catalog reg) (type name : String) (s : Schema) (h : reg.schema type = .ok s) :
    Option String × Catalog reg :=
  match he : s.named? name with
  | some col =>
    have sound : some col.column = reg.resolve (type, name) := by
      rw [resolve_of_schema h, Schema.resolve, he]
    (some col.column, { c with columns := c.columns.remember (type, name) _ sound })
  | none =>
    let cased := c.snakeCase name
    let found := (s.column? cased.1).map ColumnInfo.column
    have sound : found = reg.resolve (type, name) := by
      rw [resolve_of_schema h, Schema.resolve, he]
      simp [found, cased]
    (found, { cased.2 with columns := cased.2.columns.remember (type, name) _ sound })

/-- The catalog as it is shown for diagnosis. -/
def diagnostic (c : Catalog reg) : String :=
  "Catalog \x7b entities: " ++ toString c.size ++ ", .. \x7d"

end Catalog

end EntityGraph
