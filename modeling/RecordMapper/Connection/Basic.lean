import RecordMapper.Action
import RecordMapper.Sql.Statement

/-!
Connections to a database and the pool that lends them. Both reply to statements, by rule with a list
of rows; a connection also carries a transaction. What the calls do is left to whoever provides the
pool.
-/
namespace RecordMapper

abbrev Row := Mapping

/-- What a statement is replied to with: a list of rows, unless whoever replies breaks the rule. -/
abbrev Reply := Value

def Reply.ofRows (rows : List Row) : Reply := .list (rows.map OrderedMap.toValue)

/-- A connection that is used by one borrower until it is released. -/
structure Connection (σ : Type) where
  query : Sql.Statement → Action σ Reply
  start : Action σ Unit
  commit : Action σ Unit
  rollback : Action σ Unit
  release : Action σ Unit

/-- A pool of connections, which also runs single statements. -/
structure Pool (σ : Type) where
  query : Sql.Statement → Action σ Reply
  acquire : Action σ (Connection σ)
  close : Action σ Unit

variable {σ ρ : Type}

def Connection.within (part : Part σ ρ) (c : Connection ρ) : Connection σ where
  query s := (c.query s).within part
  start := c.start.within part
  commit := c.commit.within part
  rollback := c.rollback.within part
  release := c.release.within part

def Pool.within (part : Part σ ρ) (p : Pool ρ) : Pool σ where
  query s := (p.query s).within part
  acquire := (p.acquire.within part).map (·.within part)
  close := p.close.within part

end RecordMapper
