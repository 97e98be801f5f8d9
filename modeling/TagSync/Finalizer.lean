import TagSync.Object.Meta

/-!
# Finalizers

A finalizer in an object's metadata holds the object back from deletion until its party takes it
off. `withFinalizer?` and `withoutFinalizer?` give the list after adding or taking off one, or
nothing if there is nothing to change.
-/

set_option autoImplicit false

namespace TagSync

/-- The finalizer by which this program holds a stream. -/
def managedFinalizer : String := "dptp.openshift.io/registry-syncer"

/-- The list with a finalizer at its end, if it lacks that finalizer. -/
def withFinalizer? (finalizers : List String) (finalizer : String) : Option (List String) :=
  if finalizers.contains finalizer then none else some (finalizers ++ [finalizer])

/-- The list without a finalizer, if it has that finalizer. -/
def withoutFinalizer? (finalizers : List String) (finalizer : String) : Option (List String) :=
  if finalizers.contains finalizer then some (finalizers.filter (· != finalizer)) else none

/-- Whether this program holds the object. -/
def ObjectMeta.isManaged (m : ObjectMeta) : Bool :=
  m.finalizerList.contains managedFinalizer

/-- Adding a finalizer to a list that lacks it and taking it off again gives the list back. -/
theorem withoutFinalizer?_of_withFinalizer? {finalizers added : List String} {finalizer : String}
    (h : withFinalizer? finalizers finalizer = some added) :
    withoutFinalizer? added finalizer = some finalizers := by
  simp only [withFinalizer?] at h
  split at h
  · simp at h
  · next hn =>
    simp only [List.contains_iff_mem] at hn
    simp only [Option.some.injEq] at h
    subst h
    have : finalizers.filter (· != finalizer) = finalizers :=
      List.filter_eq_self.2 fun f hf => by
        simp only [bne_iff_ne, ne_eq]
        rintro rfl
        exact hn hf
    simp [withoutFinalizer?, this]

end TagSync
