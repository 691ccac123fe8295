import SolrRequest.Settings.Layers
import SolrRequest.Yaml.Document

/-!
# Layers of YAML

The reader that reads the texts of layers as YAML. A document that contains itself is written out
some levels farther than tables are joined, so that its settings are seen as well.
-/

namespace SolrRequest.LayerReader

def standard (limit : Nat) : LayerReader where
  document := Yaml.read (limit + 3)
  limit := limit

end SolrRequest.LayerReader
