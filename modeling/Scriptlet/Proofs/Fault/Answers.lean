import Mathlib.Data.List.Basic
import Mathlib.Data.List.Forall2
import Scriptlet.Fault

/-!
# Answers that may be faults

Facts about computations that give a value or a fault, and about the ways in which they fail.
-/

namespace Scriptlet

variable {α β : Type}

/-- An answer that is built from another one needs that one. -/
theorem of_bind_ok {first : Except Fault α} {next : α → Except Fault β} {result : β}
    (success : first >>= next = .ok result) :
    ∃ value, first = .ok value ∧ next value = .ok result := by
  cases first with
  | error fault => cases success
  | ok value => exact ⟨value, rfl, success⟩

/-- Every part of a list of answers is the answer for some item. -/
theorem mem_of_mapM_ok {answer : α → Except Fault β} {items : List α} {values : List β}
    (success : items.mapM answer = .ok values) {value : β} (member : value ∈ values) :
    ∃ item ∈ items, answer item = .ok value := by
  induction items generalizing values with
  | nil =>
      obtain rfl := Except.ok.inj success
      cases member
  | cons item rest ih =>
      rw [List.mapM_cons] at success
      obtain ⟨first, here, success⟩ := of_bind_ok success
      obtain ⟨others, later, success⟩ := of_bind_ok success
      obtain rfl := Except.ok.inj success
      rcases List.mem_cons.mp member with rfl | member
      · exact ⟨item, List.mem_cons_self, here⟩
      · obtain ⟨found, inRest, same⟩ := ih later member
        exact ⟨found, List.mem_cons_of_mem item inRest, same⟩

/-- What can be told of all items can be told again where each answer is the same. -/
theorem mapM_ok_mono {first second : α → Except Fault β} {items : List α} {values : List β}
    (each : ∀ item value, first item = .ok value → second item = .ok value)
    (success : items.mapM first = .ok values) : items.mapM second = .ok values := by
  induction items generalizing values with
  | nil => exact success
  | cons item rest ih =>
      rw [List.mapM_cons] at success ⊢
      obtain ⟨value, here, success⟩ := of_bind_ok success
      obtain ⟨others, later, success⟩ := of_bind_ok success
      rw [each item value here, ih later]
      exact success

/-- What can be told of all items in turn is the same when it is the same of each two of them. -/
theorem mapM_eq_of_forall₂ {γ : Type} {first : α → Except Fault γ} {second : β → Except Fault γ}
    {items : List α} {others : List β}
    (same : List.Forall₂ (fun item other => first item = second other) items others) :
    items.mapM first = others.mapM second := by
  induction same with
  | nil => rfl
  | cons head _ ih => rw [List.mapM_cons, List.mapM_cons, head, ih]

/-- What can be told of some items is the same for two lists that keep the same ones. -/
theorem filter_mapM_eq_of_forall₂ {γ : Type} {relation : α → β → Prop} {keeps : α → Bool}
    {others : β → Bool} {first : α → Except Fault γ} {second : β → Except Fault γ}
    {left : List α} {right : List β} (all : List.Forall₂ relation left right)
    (kept : ∀ item other, relation item other → (keeps item = true ↔ others other = true))
    (same : ∀ item other, relation item other → first item = second other) :
    (left.filter keeps).mapM first = (right.filter others).mapM second :=
  mapM_eq_of_forall₂ ((List.rel_filter (fun item other => kept item other) all).imp
    fun item other => same item other)

/-- The answers for renamed items are the renamed answers. -/
theorem mapM_renamed {γ δ : Type} {view : α → γ} {image : β → δ} {first : α → Except Fault β}
    {second : γ → Except Fault δ} {items : List α}
    (each : ∀ item ∈ items, second (view item) = (first item).map image) :
    (items.map view).mapM second = (items.mapM first).map (List.map image) := by
  induction items with
  | nil => rfl
  | cons item rest ih =>
      rw [List.map_cons, List.mapM_cons, List.mapM_cons, each item List.mem_cons_self,
        ih fun other member => each other (List.mem_cons_of_mem item member)]
      cases first item with
      | error fault => rfl
      | ok value => cases rest.mapM first <;> rfl

/-- What can be told of renamed items is what can be told of the items. -/
theorem mapM_same {γ δ : Type} {view : α → γ} {first : α → Except Fault δ}
    {second : γ → Except Fault δ} (each : ∀ item, second (view item) = first item)
    (items : List α) : (items.map view).mapM second = items.mapM first := by
  refine mapM_eq_of_forall₂ ?_
  rw [List.forall₂_map_left_iff, List.forall₂_same]
  exact fun item _ => each item

/-- What can be told of some renamed items is what can be told of the items. -/
theorem filter_mapM_same {γ δ : Type} {view : α → γ} {keeps : α → Bool} {others : γ → Bool}
    {first : α → Except Fault δ} {second : γ → Except Fault δ}
    (kept : ∀ item, others (view item) = keeps item)
    (each : ∀ item, second (view item) = first item) (items : List α) :
    ((items.map view).filter others).mapM second = (items.filter keeps).mapM first := by
  rw [List.filter_map, show others ∘ view = keeps from funext kept]
  exact mapM_same each _

/-- The answer at the end of renamed steps is the renamed answer. -/
theorem foldlM_renamed {γ δ : Type} {image : α → δ} {first : α → γ → Except Fault α}
    {second : δ → γ → Except Fault δ}
    (each : ∀ value item, second (image value) item = (first value item).map image)
    (items : List γ) (start : α) :
    items.foldlM second (image start) = (items.foldlM first start).map image := by
  induction items generalizing start with
  | nil => rfl
  | cons item rest ih =>
      rw [List.foldlM_cons, List.foldlM_cons, each]
      cases first start item with
      | error fault => rfl
      | ok value => exact ih value

/-- If there is no answer, the fault is as described. -/
def Fails (fault : Fault → Prop) (answer : Except Fault α) : Prop :=
  ∀ failure, answer = .error failure → fault failure

namespace Fails

variable {fault : Fault → Prop}

theorem ok (value : α) : Fails fault (.ok value) := by
  rintro failure ⟨⟩

theorem error {failure : Fault} (described : fault failure) :
    Fails fault (.error failure : Except Fault α) := by
  rintro _ ⟨⟩
  exact described

theorem bind {first : Except Fault α} {next : α → Except Fault β} (before : Fails fault first)
    (after : ∀ value, first = .ok value → Fails fault (next value)) :
    Fails fault (first >>= next) := by
  cases first with
  | ok value => exact after value rfl
  | error failure =>
      rintro _ ⟨⟩
      exact before failure rfl

theorem mapM {answer : α → Except Fault β} {items : List α}
    (each : ∀ item ∈ items, Fails fault (answer item)) : Fails fault (items.mapM answer) := by
  induction items with
  | nil => exact ok []
  | cons item rest ih =>
      rw [List.mapM_cons]
      refine bind (each item List.mem_cons_self) fun _ _ => ?_
      refine bind (ih fun later found => each later (List.mem_cons_of_mem item found)) ?_
      exact fun _ _ => ok _

theorem foldlM {answer : β → α → Except Fault β}
    (each : ∀ value item, Fails fault (answer value item)) (items : List α) (start : β) :
    Fails fault (items.foldlM answer start) := by
  induction items generalizing start with
  | nil => exact ok start
  | cons item rest ih => exact bind (each start item) fun value _ => ih value

end Fails

end Scriptlet
