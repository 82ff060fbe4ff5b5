import RouteContract.Proofs.Schema.Description
import RouteContract.Source.Parse

/-!
Wrapped types. References, parentheses and owning types are not seen in a description, and an
`Option` shows in it only as the mark of an optional type. A whole stack of such layers therefore
describes what is inside, and makes it optional exactly if there is an `Option` in the stack; a
collection around the stack is an array and not optional. Nothing is asked of the aliases: what is
inside may be an alias or have no description at all, in which case the stack has none for the same
reason. Only an import that renames the wrappers themselves would change this.
-/

namespace RouteContract

open Source

/-- The names of types that are looked through or into. -/
def Descriptor.isWrapper (name : String) : Bool :=
  name == "Option" || isTransparent name || isCollection name

theorem Descriptor.isWrapper_of_transparent {name : String} (hname : isTransparent name) :
    isWrapper name := by
  simp [isWrapper, hname]

theorem Descriptor.isWrapper_of_collection {name : String} (hname : isCollection name) :
    isWrapper name := by
  simp [isWrapper, hname]

namespace Source

/-- A layer around a type. An applied one may have further arguments behind the type. -/
inductive Layer where
  | reference
  | paren
  | owning (lead : Lead) (name : String) (transparent : Descriptor.isTransparent name)
      (more : List TypeExpr)
  | optional (lead : Lead) (more : List TypeExpr)

namespace Layer

def around : Layer → TypeExpr → TypeExpr
  | reference, t => .reference t
  | paren, t => .paren t
  | owning lead name _ more, t => .named lead name true (t :: more)
  | optional lead more, t => .named lead "Option" true (t :: more)

def isOptional : Layer → Bool
  | optional _ _ => true
  | _ => false

end Layer

/-- A type in a stack of layers, the outermost of which comes first. -/
def TypeExpr.wrapped (layers : List Layer) (t : TypeExpr) : TypeExpr :=
  layers.foldr Layer.around t

/-- What holds any number of elements: a slice or an array, or an applied collection. -/
inductive Container where
  | sequence
  | collection (lead : Lead) (name : String) (holds : Descriptor.isCollection name)
      (more : List TypeExpr)

def Container.around : Container → TypeExpr → TypeExpr
  | sequence, t => .sequence t
  | collection lead name _ more, t => .named lead name true (t :: more)

namespace Index

variable {index : Index}

/-- An applied type that no import renames stands for nothing else. -/
theorem step_of_applied {name : String} (hname : index.renames.lookup name = none) (lead : Lead)
    (arguments : List TypeExpr) : index.step (.named lead name true arguments) = .stop := by
  rw [step]
  split
  · rfl
  · rw [hname]
    rfl

theorem describe_of_applied {name : String} (hname : index.renames.lookup name = none)
    (lead : Lead) (arguments : List TypeExpr) :
    index.describe (.named lead name true arguments) =
      index.describeRole index.describe name (Descriptor.role lead name arguments) :=
  describe_of_stop (step_of_applied hname lead arguments)

theorem role_of_transparent {name : String} (hname : Descriptor.isTransparent name) (lead : Lead)
    (t : TypeExpr) (more : List TypeExpr) :
    Descriptor.role lead name (t :: more) = .transparent t := by
  have hother : (name == "Option") = false := by
    rw [beq_eq_false_iff_ne]
    rintro rfl
    exact absurd hname (by decide)
  simp [Descriptor.role, hother, hname]

theorem role_of_collection {name : String} (hname : Descriptor.isCollection name) (lead : Lead)
    (t : TypeExpr) (more : List TypeExpr) :
    Descriptor.role lead name (t :: more) = .collection t := by
  have hother : (name == "Option") = false := by
    rw [beq_eq_false_iff_ne]
    rintro rfl
    exact absurd hname (by decide)
  have hopaque : Descriptor.isTransparent name = false := by
    simp only [Descriptor.isCollection, List.contains_eq_mem, List.mem_cons, List.not_mem_nil,
      or_false, decide_eq_true_eq] at hname
    rcases hname with rfl | rfl | rfl | rfl | rfl | rfl <;> rfl
  simp [Descriptor.role, hother, hopaque, hname]

section Wrappers

variable (hnames : ∀ entry ∈ index.renames, ¬ Descriptor.isWrapper entry.1)
include hnames

theorem lookup_of_isWrapper {name : String} (hname : Descriptor.isWrapper name) :
    index.renames.lookup name = none := by
  rw [Table.lookup_eq_none_iff]
  intro hmem
  obtain ⟨entry, hentry, rfl⟩ := List.mem_map.mp hmem
  exact hnames entry hentry hname

/-- A layer describes what is inside, and it passes on whether that is optional unless it makes it
so. -/
theorem describe_around (layer : Layer) (t : TypeExpr) :
    index.describe (layer.around t) =
      (fun d => (d.1, layer.isOptional || d.2)) <$> index.describe t := by
  cases layer with
  | reference =>
    rw [Layer.around, describe_eq, describeBy]
    exact (id_map (index.describe t)).symm
  | paren =>
    rw [Layer.around, describe_eq, describeBy]
    exact (id_map (index.describe t)).symm
  | owning lead name htransparent more =>
    have hname := lookup_of_isWrapper hnames (Descriptor.isWrapper_of_transparent htransparent)
    rw [Layer.around, describe_of_applied hname, role_of_transparent htransparent]
    exact (id_map (index.describe t)).symm
  | optional lead more =>
    rw [Layer.around, describe_of_applied (lookup_of_isWrapper hnames rfl)]
    change (do return ((← index.describe t).1, true)) = _
    cases index.describe t <;> rfl

/-- What a container holds is described without its mark, and a container is not optional. -/
theorem describe_container (container : Container) (t : TypeExpr) :
    index.describe (container.around t) = (fun d => (.array d.1, false)) <$> index.describe t := by
  cases container with
  | sequence =>
    rw [Container.around, describe_eq, describeBy]
    cases index.describe t <;> rfl
  | collection lead name holds more =>
    have hname := lookup_of_isWrapper hnames (Descriptor.isWrapper_of_collection holds)
    rw [Container.around, describe_of_applied hname, role_of_collection holds, describeRole]
    cases index.describe t <;> rfl

end Wrappers

/-- A stack of layers is described as the type inside it, and is optional exactly if there is an
`Option` in it or that type is optional itself; a container around the stack is an array of this
description and not optional. Where the type has no description, neither have the stack and the
container, for the same reason. -/
theorem describe_wrapped (index : Index)
    (hnames : ∀ entry ∈ index.renames, ¬ Descriptor.isWrapper entry.1) (layers : List Layer)
    (t : TypeExpr) :
    index.describe (t.wrapped layers) =
      (fun d => (d.1, layers.any Layer.isOptional || d.2)) <$> index.describe t ∧
    ∀ container : Container, index.describe (container.around (t.wrapped layers)) =
      (fun d => (.array d.1, false)) <$> index.describe t := by
  have hstack : index.describe (t.wrapped layers) =
      (fun d => (d.1, layers.any Layer.isOptional || d.2)) <$> index.describe t := by
    induction layers with
    | nil => exact (id_map (index.describe t)).symm
    | cons layer layers ih =>
      rw [TypeExpr.wrapped] at ih ⊢
      rw [List.foldr_cons, describe_around hnames, ih]
      cases index.describe t with
      | error b => rfl
      | ok d =>
        simp [Functor.map, Except.map, Bool.or_assoc]
  refine ⟨hstack, fun container => ?_⟩
  rw [describe_container hnames, hstack]
  cases index.describe t <;> rfl

/-- An alias of an optional type behind a reference, parentheses and three owning types, one of them
with a lifetime, and a set of these. Two imports of the same sources lead back to each other. -/
theorem describe_wrapped_found :
    let optional := TypeExpr.named {} "Option" true [.ofName "Item"]
    let index := Index.ofFiles [{ path := "lib.rs", items := [.typeAlias "Found" optional [],
      .imports [("Right", "Left")] [], .imports [("Left", "Right")] []] }]
    let layers : List Layer := [.reference, .paren, .owning {} "Box" rfl [],
      .owning { names := ["std", "borrow"] } "Cow" rfl [], .owning {} "Arc" rfl []]
    let wrapped := (TypeExpr.ofName "Found").wrapped layers
    let set := (Container.collection {} "HashSet" rfl [.ofName "State"]).around wrapped
    (∀ entry ∈ index.renames, ¬ Descriptor.isWrapper entry.1) ∧
    index.describe wrapped = .ok (.reference "Item", true) ∧
    index.describe set = .ok (.array (.reference "Item"), false) ∧
    (parseType? "&'a (Box<std::borrow::Cow<'a, Arc<Found>>>)").map index.describe =
      some (index.describe wrapped) ∧
    index.describe (.ofName "Left") = .error .endless := by
  intro optional index layers wrapped set
  have hnames : ∀ entry ∈ index.renames, ¬ Descriptor.isWrapper entry.1 := by decide +kernel
  have hfound : index.describe (.ofName "Found") = .ok (.reference "Item", true) := by
    decide +kernel
  obtain ⟨hstack, hcontainer⟩ := describe_wrapped index hnames layers (.ofName "Found")
  rw [hfound] at hstack hcontainer
  have hwrapped : index.describe wrapped = .ok (.reference "Item", true) := hstack
  refine ⟨hnames, hwrapped, hcontainer _, ?_, by decide +kernel⟩
  rw [hwrapped]
  decide +kernel

end Index

end Source

end RouteContract
