/-! Moments and spans of time, counted in nanoseconds. -/
namespace LocalSwarm

/-- Nanoseconds since an origin that is the same for all moments compared. -/
abbrev Moment := Nat

/-- Nanoseconds between two moments. -/
abbrev Span := Nat

namespace Span

def ofNanoseconds (n : Nat) : Span := n
def ofMilliseconds (n : Nat) : Span := n * 1000000
def ofSeconds (n : Nat) : Span := n * 1000000000
def ofMinutes (n : Nat) : Span := ofSeconds (n * 60)

end Span
end LocalSwarm
