import ScriptTree.Dump.Extract
import ScriptTree.Proofs.Files.Path

namespace ScriptTree

namespace Path

/-- The last part between slashes that is neither empty nor a dot. -/
def lastSegment? (t : Text) : Option Text :=
  ((Text.split slash t).filter fun part => part ≠ [] ∧ part ≠ Text.ofString ".").getLast?

/-- Slashes, each with a dot behind it or without one. -/
inductive IsTrailing : Text → Prop where
  | nil : IsTrailing []
  | slash {t : Text} : IsTrailing t → IsTrailing (Path.slash :: t)
  | dot {t : Text} : IsTrailing t → IsTrailing (Path.slash :: CodePoint.ofChar '.' :: t)

theorem lastSegment?_eq_getLast?_names (t : Text) : lastSegment? t = (ofText t).names.getLast? := by
  have hname : (fun part : Text => decide (part ≠ [] ∧ part ≠ Text.ofString ".")) = isName :=
    funext fun part => Bool.decide_and _ _
  rw [lastSegment?, hname, ofText]

theorem names_ofText_append_slash (s t : Text) :
    (ofText (s ++ slash :: t)).names = (ofText s).names ++ (ofText t).names := by
  simp only [ofText, Text.split_append_separator, List.filter_append]

/-- The directories before a path do not change its last name. -/
theorem getLast?_names_prepend {t segment : Text} (h : (ofText t).names.getLast? = some segment)
    (directory : Text) :
    (ofText (directory ++ slash :: t)).names.getLast? = some segment := by
  rw [names_ofText_append_slash, List.getLast?_append, h, Option.some_or]

theorem names_append_trailing {tail : Text} (h : IsTrailing tail) (t : Text) :
    (ofText (t ++ tail)).names = (ofText t).names := by
  induction h generalizing t with
  | nil => rw [List.append_nil]
  | @slash tail _ ih =>
    have htail : (ofText tail).names = [] := ih []
    rw [names_ofText_append_slash, htail, List.append_nil]
  | @dot tail _ ih =>
    have htail : (ofText (CodePoint.ofChar '.' :: tail)).names = [] := ih [CodePoint.ofChar '.']
    rw [names_ofText_append_slash, htail, List.append_nil]

end Path

namespace GrammarMode

theorem ofPath_congr {p q : Path} (h : p.names.getLast? = q.names.getLast?) : ofPath p = ofPath q := by
  rw [ofPath, ofPath, Path.name, Path.name, h]

theorem ofPath_eq_module_iff {p : Path} :
    ofPath p = module ↔ ∃ last, p.names.getLast? = some last ∧ moduleEnding <:+ last := by
  have hending : ofPath p = module ↔ moduleEnding <:+ p.name := by
    rw [ofPath, ← List.isSuffixOf_iff_suffix]
    split
    next h => simp [h]
    next h => simp [h]
  rw [hending, Path.name]
  cases hlast : p.names.getLast? with
  | none =>
    have hempty : ¬ moduleEnding <:+ ([] : Text) := by decide
    simpa using hempty
  | some last => simp

/-- The grammar of a path's text is that of modules exactly if the text has a last segment and this
ends with `module.js`. So it stays the same with directories before the path, with slashes and dots
behind it and in the normal spelling of the path, which also denotes the same source. -/
theorem ofPath_ofText_lastSegment (t : Text) :
    (ofPath (Path.ofText t) = module ↔
      ∃ segment, Path.lastSegment? t = some segment ∧ Text.ofString "module.js" <:+ segment) ∧
    (∀ segment, Path.lastSegment? t = some segment →
      ∀ directory, ofPath (Path.ofText (directory ++ Path.slash :: t)) = ofPath (Path.ofText t)) ∧
    (∀ tail, Path.IsTrailing tail → ofPath (Path.ofText (t ++ tail)) = ofPath (Path.ofText t)) ∧
    ofPath (Path.ofText (Path.ofText t).text) = ofPath (Path.ofText t) ∧
    SourceUnit.ofText (SourceUnit.ofText t).path.text = SourceUnit.ofText t := by
  have hnormal : Path.ofText (Path.ofText t).text = Path.ofText t :=
    Path.ofText_text (Path.isProper_ofText t)
  refine ⟨?_, fun segment h directory => ?_, fun tail h => ?_, congrArg ofPath hnormal, ?_⟩
  · rw [Path.lastSegment?_eq_getLast?_names]
    exact ofPath_eq_module_iff
  · rw [Path.lastSegment?_eq_getLast?_names] at h
    exact ofPath_congr ((Path.getLast?_names_prepend h directory).trans h.symm)
  · exact ofPath_congr (congrArg List.getLast? (Path.names_append_trailing h t))
  · simp only [SourceUnit.ofText, hnormal]

/-- A directory that is named like a module, and a path that goes on behind its last segment. -/
theorem ofPath_ofText_lastSegment_spelled :
    Path.lastSegment? (Text.ofString ".//b/x-module.js/.") = some (Text.ofString "x-module.js") ∧
      ofPath (Path.ofText
        (Text.ofString "//module.js/.." ++ Path.slash :: Text.ofString ".//b/x-module.js/.")) =
        module ∧
      ofPath (Path.ofText (Text.ofString "module.js/x.js" ++ Text.ofString "/.//")) = script := by
  have hlast : Path.lastSegment? (Text.ofString ".//b/x-module.js/.") =
      some (Text.ofString "x-module.js") := by decide
  have htrailing : Path.IsTrailing (Text.ofString "/.//") := .dot (.slash (.slash .nil))
  refine ⟨hlast, ?_, ?_⟩
  · rw [(ofPath_ofText_lastSegment _).2.1 _ hlast]
    exact (ofPath_ofText_lastSegment _).1.mpr ⟨_, hlast, by decide⟩
  · rw [(ofPath_ofText_lastSegment _).2.2.1 _ htrailing]
    decide

end GrammarMode

end ScriptTree
