import AirTizen.Media.Photo

/-!
# The photo handler of the page

`photo.js`: every status poll hands it the photo session of the receiver, and it
loads the photo of a new generation into the image that is not on screen.
-/

namespace AirTizen.Page

open AirTizen.Media

/-- The `photo` object of the status text, as far as the page reads it. -/
structure PhotoSession where
  active : Bool
  generation : Nat
  dissolve : Bool
  deriving DecidableEq

def photoSession (photo : PhotoState) : PhotoSession :=
  { active := photo.active, generation := photo.generation, dissolve := photo.dissolve }

structure Image where
  /-- The generation in its `src`. -/
  source : Option Nat := none
  /-- The `token` of its listeners. -/
  token : Option Nat := none
  visible : Bool := false
  dissolve : Bool := false
  deriving DecidableEq

/-- The variables of the handler; `false` and `true` are the images 0 and 1. -/
structure Gallery where
  images : Bool → Image := fun _ => {}
  overlay : Bool := false
  /-- `generation`, where `none` is -1. -/
  generation : Option Nat := none
  current : Bool := false
  active : Bool := false

inductive PhotoEffect where
  /-- An image starts loading the photo of a generation. -/
  | load (generation : Nat)
  /-- The overlay is hidden and both images are emptied. -/
  | hide
  | report (generation : Nat) (failed : Bool)
  deriving DecidableEq

def Gallery.reset (gallery : Gallery) : Gallery × List PhotoEffect :=
  ({ gallery with
      generation := none, active := false, overlay := false
      images := fun image => { dissolve := (gallery.images image).dissolve } },
    [.hide])

/-- The part of `update` behind the generation check. -/
def Gallery.show (gallery : Gallery) (state : PhotoSession) : Gallery × List PhotoEffect :=
  let next := !gallery.current
  let faded (image : Bool) : Image := { gallery.images image with dissolve := state.dissolve }
  ({ gallery with
      active := true
      generation := some state.generation
      images := fun image =>
        if image = next then
          { faded image with source := some state.generation, token := some state.generation }
        else faded image },
    [.load state.generation])

def Gallery.update (gallery : Gallery) (state : Option PhotoSession) :
    Gallery × List PhotoEffect :=
  match state.filter PhotoSession.active with
  | none => if gallery.generation.isSome then gallery.reset else (gallery, [])
  | some state =>
      if gallery.generation = some state.generation then ({ gallery with active := true }, [])
      else gallery.show state

/-- The `onload` and `onerror` listeners of an image, which do nothing for a
generation that is not the current one. -/
def Gallery.finished (gallery : Gallery) (image failed : Bool) : Gallery × List PhotoEffect :=
  match (gallery.images image).token with
  | none => (gallery, [])
  | some token =>
      if gallery.generation ≠ some token then (gallery, [])
      else if failed then (gallery, [.report token true])
      else
        ({ gallery with
            overlay := true
            current := image
            images := fun other =>
              { gallery.images other with
                visible :=
                  if other = gallery.current then false
                  else if other = image then true
                  else (gallery.images other).visible } },
          [.report token false])

end AirTizen.Page
