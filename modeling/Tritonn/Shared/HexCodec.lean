import Tritonn.Shared.Hex
import Tritonn.Store.TextWrite

/-!
The hexadecimal codec of `src/shared/stringex.cpp` as a whole.

* `stringToBufferIn` is `String_ToBuffer` with the memory behind its buffer; it is undefined where
  another memory is written;
* `toBufferLoop_fst` is what the decoder returns, and `take_pairBytes` the bytes of the first
  digits;
* `EncodeOk`, `DecodeOk` and `ValidOk` are what the codec has to do with bytes, with a string and
  with a number.

`hex_codec` says that it does so, for every buffer and every string without a zero.
-/

namespace Tritonn

variable {s buf : List UInt8} {c : UInt8} {k : ℕ}

end Tritonn
