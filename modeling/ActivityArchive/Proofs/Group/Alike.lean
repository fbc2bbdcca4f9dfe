import ActivityArchive.Proofs.Activity.Alike
import ActivityArchive.Proofs.Group.Lasting

/-!
What a group takes in does not depend on what only storage knows: into activities that look alike,
every group takes the same readings alike, and it ends their records alike
(`Group.spec_keepsAlike`).
-/
namespace ActivityArchive

open Activities

structure GroupSpec.KeepsAlike (g : GroupSpec) : Prop where
  absorb : ∀ view idx readings a b, Alike view.slot a b →
    Alike view.slot (g.absorb view idx readings a) (g.absorb view idx readings b)
  finish : ∀ s a b, Alike s a b → Alike s (g.finish s a) (g.finish s b)

/-- What is done to a slot record by record or count by count is seen alike. -/
theorem Part.lasting_alike (s : Slot) : Part.Lasting s fun t => t.Alike s where
  header _ _ _ _ := trivial
  single _ i f _ _ h := h.update i f
  multi _ i f _ _ h := h.update i f
  item _ p f _ _ h := h.updateBy p f
  every _ f _ _ h := h.fill f
  count row name count _ _ h := h.absorbCell row name count

theorem Group.spec_keepsAlike (g : Group) : g.spec.KeepsAlike where
  absorb view idx readings _ _ h :=
    (spec_keeps g).absorb view idx readings (Part.lasting_alike view.slot) h
  finish s _ _ h := (spec_keeps g).finish s (Part.lasting_alike s) h

end ActivityArchive
