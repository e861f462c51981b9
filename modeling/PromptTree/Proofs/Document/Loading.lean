import PromptTree.Document.Source
import PromptTree.Document.Vocabulary
import PromptTree.Proofs.Document.Soundness

/-!
The ways in which a description becomes a workflow. Main statement: whichever way is taken, the tree
of the workflow is text safe (`Loaded.textSafe`).
-/

namespace PromptTree.Document

/-- The workflow comes out of one of the ways in which descriptions are read. -/
inductive Loaded : Document → Prop where
  | value {v : Value} {document : Document} : ofValue v = .ok document → Loaded document
  | element {node : Xml.Node} {document : Document} : ofXml node = .ok document → Loaded document
  | yaml {text : String} {document : Document} : readYaml text = .ok document → Loaded document
  | xml {text : String} {document : Document} : readXml text = .ok document → Loaded document
  | file {files : Files} {path : Files.Path} {document : Document} :
    ofFile files path = .ok document → Loaded document

theorem textSafe_of_ofValue {v : Value} {document : Document}
    (accepted : ofValue v = .ok document) :
    document.root.TextSafe := by
  cases v with
  | map entries =>
    obtain ⟨_, ⟨⟩, _, safe⟩ := Reading.describes_of_gives (Reading.outcome_eq_ok_iff.mp accepted)
    exact safe
  | _ => cases accepted

theorem textSafe_of_ofXml {node : Xml.Node} {document : Document}
    (accepted : ofXml node = .ok document) :
    document.root.TextSafe := by
  have clean := Reading.outcome_eq_ok_iff.mp accepted
  unfold Vocabulary.documentOf at clean
  simp only [Reading.gives_bind] at clean
  obtain ⟨_, _, clean⟩ := clean
  split at clean
  · simp only [Reading.gives_bind] at clean
    obtain ⟨_, _, clean⟩ := clean
    obtain ⟨_, ⟨⟩, _, safe⟩ := Reading.describes_of_gives clean
    exact safe
  · simp at clean

theorem textSafe_of_readYaml {text : String} {document : Document}
    (accepted : readYaml text = .ok document) :
    document.root.TextSafe := by
  unfold readYaml at accepted
  split at accepted
  · split at accepted
    · next read =>
      cases accepted
      exact textSafe_of_ofValue read
    · cases accepted
  · cases accepted
  · cases accepted

theorem textSafe_of_readXml {text : String} {document : Document}
    (accepted : readXml text = .ok document) :
    document.root.TextSafe := by
  unfold readXml at accepted
  split at accepted
  · split at accepted
    · next read =>
      cases accepted
      exact textSafe_of_ofXml read
    · cases accepted
  · cases accepted

/-- Nothing that returns a text stands in a workflow where the text cannot be used. -/
theorem Loaded.textSafe {document : Document} (loaded : Loaded document) :
    document.root.TextSafe := by
  cases loaded with
  | value accepted => exact textSafe_of_ofValue accepted
  | element accepted => exact textSafe_of_ofXml accepted
  | yaml accepted => exact textSafe_of_readYaml accepted
  | xml accepted => exact textSafe_of_readXml accepted
  | file accepted =>
    unfold ofFile at accepted
    split at accepted
    · cases accepted
    · cases accepted
    · split at accepted
      · exact textSafe_of_readXml accepted
      · exact textSafe_of_readYaml accepted

end PromptTree.Document
