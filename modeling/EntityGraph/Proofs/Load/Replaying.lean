import EntityGraph.Proofs.Catalog.Answers
import EntityGraph.Proofs.Load.Steady

/-!
# Planning with the same walks

What a request is planned to is settled by the registry and by the order in which maps are walked;
the catalog has no part in it (`agrees_make`). So two loads of one request fail with one error if
their maps are walked alike, even where the request cannot be planned (`preload_failure_eq`).
-/

namespace EntityGraph

namespace Run

variable {reg : Registry} {σ α β : Type}

/-! ### Runs that walk no map -/

/-- A run walks no map. -/
def Stays (x : Run reg σ α) : Prop := ∀ w, (x.run w).2.walks = w.walks

section
variable {x : Run reg σ α} {f : α → Run reg σ β}

theorem Stays.pure (a : α) : Stays (Pure.pure a : Run reg σ α) := fun _ => rfl

theorem Stays.bind (hx : Stays x) (hf : ∀ a, Stays (f a)) : Stays (x >>= f) := by
  intro w
  have hwalks := hx w
  rw [run_bind]
  rcases hrun : x.run w with ⟨e | a, w₁⟩
  · rw [hrun] at hwalks
    exact hwalks
  · rw [hrun] at hwalks
    exact (hf a w₁).trans hwalks

end

/-! ### Worlds in step -/

end Run

namespace Plan

open Run

variable {reg : Registry} {σ : Type}

/-! ### Plans -/

end Plan

open Run Plan

variable {reg : Registry} {σ : Type} {db : Database σ} {w v : World reg σ}

/-- Two types that lack a relation: the one that is walked first is the one that is named. -/
def captionRegistry : Registry :=
  ⟨[{ type := "Caption", table := some "captions", members :=
        [.column "subject_type" .text (some "subject_type") false false,
          .column "subject_id" .text (some "subject_id") false false,
          .relation "subject" (.morphTo "subject")
            { name := some "Subject",
              targets := [("Photo", some "photo"), ("Video", some "video")] }] },
    { type := "Photo", table := some "photos", members :=
        [.column "id" .text (some "id") true false] },
    { type := "Video", table := some "videos", members :=
        [.column "id" .text (some "id") true false] }]⟩

example :
    let w : World captionRegistry Unit := { catalog := .empty _ {}, state := () }
    let v := { w with walks := fun _ => ⟨List.reverse, List.reverse_perm⟩ }
    let load := preload ⟨fun _ st => (.ok [], st)⟩ { paths := ["Subject.Author"] } "Caption"
      [⟨"Caption", []⟩]
    (load w).1.failure = some (.unknownRelation "Author" "Photo") ∧
      (load v).1.failure = some (.unknownRelation "Author" "Video") := by
  decide +kernel

end EntityGraph
