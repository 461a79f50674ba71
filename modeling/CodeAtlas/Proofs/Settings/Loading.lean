/-
What is loaded from a file.

A file is loaded in two steps: its bytes are read as a text, and the text as a
configuration.  Each of them can fail, and the error tells which one did.  The file with
all defaults passes both and says what would hold without it.
-/
import CodeAtlas.Proofs.Text.Shown
import CodeAtlas.Settings.Load

namespace CodeAtlas.Settings

open CodeAtlas.Disk
open CodeAtlas.Text

/-! ### Texts -/

theorem load_eq_ok_iff {d : Disk} {path : Bytes} {c : Configuration} :
    load d path = .ok c ↔ ∃ text, d.readText path = .ok text ∧ Configuration.ofString? text = some c := by
  unfold load
  cases d.readText path with
  | error e => simp
  | ok text =>
      cases hc : Configuration.ofString? text with
      | none => simp [hc]
      | some other => simp [hc]

/-- Why a file cannot be loaded: it cannot be read as a text, or the text is no configuration. -/
def LoadError.Of (d : Disk) (path : Bytes) (e : LoadError) : Prop :=
  (∃ io, d.readText path = .error io ∧ e = .unreadable path io) ∨
    ∃ text, d.readText path = .ok text ∧ Configuration.ofString? text = none ∧ e = .malformed path

theorem load_eq_error_iff {d : Disk} {path : Bytes} {e : LoadError} : load d path = .error e ↔ e.Of d path := by
  unfold load LoadError.Of
  cases d.readText path with
  | error io => simp [eq_comm]
  | ok text =>
      cases hc : Configuration.ofString? text with
      | none => simp [hc, eq_comm]
      | some other => simp [hc]

/-! ### Bytes -/

/-- The bytes of a file are a text that describes a configuration. -/
def Describes (content : ByteArray) (c : Configuration) : Prop :=
  ∃ text, String.fromUTF8? content = some text ∧ Configuration.ofString? text = some c

theorem load_eq_ok_iff_describes {d : Disk} {path : Bytes} {content : ByteArray} (h : d.read path = .ok content)
    {c : Configuration} : load d path = .ok c ↔ Describes content c := by
  have htext : ∀ text, d.readText path = .ok text ↔ String.fromUTF8? content = some text := by
    intro text
    unfold readText
    rw [h]
    cases hdecoded : String.fromUTF8? content with
    | none => simp [hdecoded]
    | some other => simp [hdecoded]
  simp only [load_eq_ok_iff, htext, Describes]

theorem readText_of_read {d : Disk} {path : Bytes} {text : String} (h : d.read path = .ok text.toUTF8) :
    d.readText path = .ok text := by
  unfold readText
  rw [h]
  simp only [fromUTF8?_toUTF8]

/-- A file with all defaults says what holds without any file.  Its characters are compared line by line, which is
much less work than to go through the bytes of the whole text. -/
theorem describes_defaultText : Describes defaultText.toUTF8 .standard := by
  have hchars : defaultText.toList = defaultLines.flatMap fun line => line.toList ++ ['\n'] := by
    simp [defaultText, List.flatMap_map]
  refine ⟨defaultText, fromUTF8?_toUTF8 defaultText, ?_⟩
  unfold Configuration.ofString? Toml.ofString?
  rw [hchars]
  decide +kernel

end CodeAtlas.Settings
