import PureService.Text.Blank
import PureService.Yaml.Reading

/-!
# Documents from text

The text of a document is YAML, or blank for a document without content. The name and whether the
document is a test come from where the text was found; what the text says about them counts only
in so far as it can make the document a test.
-/

namespace PureService.Document

open Decoding

/-- Decode the text of a document. -/
def decode (text : String) : Except Yaml.Failure Document :=
  if Text.isAllBlank text then .ok (.empty "") else Yaml.decode text Source.document

/-- The document that a text describes, under the name and with the test mark of its place. -/
def ofText (name text : String) (inTests : Bool) : Except Yaml.Failure Document :=
  (decode text).map fun document =>
    { document with name, markedTest := document.markedTest || inTests }.markTestFunctions

end PureService.Document
