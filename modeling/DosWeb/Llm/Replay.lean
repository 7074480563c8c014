import DosWeb.Llm.Replies

/-!
A reply that was accepted live is accepted again from its stored body exactly where the
envelope's own identifier would have been accepted in place of a header's.
-/

namespace DosWeb.Llm

open Library Library.JsonValue Library.JsonText Growth

section

variable {F : Type} [FloatText F] (screen : ReplyScreen) (call : GrowthCall)

end

variable (requestId : PlainJson)

end DosWeb.Llm
