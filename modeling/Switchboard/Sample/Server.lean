import Switchboard.Network.Strategy

/-!
# A sample server

A server with a list of replies: each post gets the next one, and the last reply serves all posts
after it. Without replies the server sends back what it receives. Its state is the list of the posts
it has received.
-/
namespace Switchboard.Sample

open Network (Exchange Link Post)

inductive Body where
  | echo
  | bytes (bs : List UInt8)

structure Reply where
  status : Nat := 200
  body : Body := .echo
  /-- Whether the connection is closed before the announced end of the body. -/
  truncate : Bool := false
  /-- Whether the connection is closed without a reply. -/
  close : Bool := false

/-- Whether a reply with a status never has a body. -/
def isBodiless (status : Nat) : Bool := status = 204 || status = 304

/-- What a post gets by a reply. -/
def Reply.exchange (r : Reply) (post : Post) : Exchange :=
  if r.close then .refused
  else if isBodiless r.status then .reply r.status [] true
  else
    match r.body with
    | .echo => .reply r.status post.body !r.truncate
    | .bytes bs => .reply r.status bs !r.truncate

/-- The reply to the post that finds `received` posts before it. -/
def replyAt (replies : List Reply) (received : Nat) : Reply :=
  (replies[received]?.orElse fun _ => replies.getLast?).getD {}

/-- A link on which every post reaches the server. -/
def server (replies : List Reply) : Link (List Post) where
  exchange received post := ((replyAt replies received.length).exchange post, received ++ [post])

def silence : Link (List Post) where
  exchange received _ := (.refused, received)

end Switchboard.Sample
