import FatImage.Image
import FatImage.Layout

/-!
# Volumes

A volume is an image with a layout laid over it. The layout is given, not read from the image; to
mount a volume is to check that the image is long enough for everything before the data region.
-/

namespace FatImage

/-- An image and the layout of what is on it. -/
structure Volume (σ : Type) where
  image : Image σ
  layout : Layout

namespace Volume

/-- The volume on a device, whose sectors must have the size that the layout says. -/
def ofDevice (d : Device σ) (l : Layout) : Action σ VolumeError (Volume σ) := do
  let image ← Image.ofDevice d l.sectorSize
  return { image := image, layout := l }

/-- The volume on a device that has room for the table and the root directory. -/
def mount (d : Device σ) (l : Layout) : Action σ VolumeError (Volume σ) := do
  let v ← ofDevice d l
  v.image.ensureFits 0 l.dataOffset
  Action.note (.opened v.image.length l)
  return v

end Volume

end FatImage
