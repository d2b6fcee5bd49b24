import TermPilot.Text.Blank

/-!
# Noise on the error stream

Graphics drivers and desktop services write to the error stream of kitty. Their lines have nothing
to do with the wrapped program and are left out.
-/

namespace TermPilot.Dump

/-- The texts that tell such lines. -/
def noises : List String :=
  ["libEGL warning:", "MESA:", "libEGL error:", "[glfw error", "glfw error",
   "process_desktop_settings:", "org.freedesktop.DBus.Error", "org.freedesktop.portal.Desktop",
   "org.freedesktop.Notifications", "MESA-LOADER:", "ZINK:", "egl:", "dri2 screen"]

/-- Whether a line is noise. -/
def isNoise (line : Text) : Bool := noises.any fun noise => Text.occursIn noise.toList line

/-- The lines without the blank ones at either end. -/
def trimBlankLines (lines : List Text) : List Text :=
  ((lines.dropWhile Text.isBlankText).reverse.dropWhile Text.isBlankText).reverse

end TermPilot.Dump
