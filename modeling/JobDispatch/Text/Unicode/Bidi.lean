import JobDispatch.Text.Unicode.Table

namespace JobDispatch

namespace Unicode

inductive BidiClass where
  | l | r | al | en | es | et | an | cs | nsm | bn | on | other
  deriving DecidableEq, Repr, Inhabited

def BidiClass.ofLetter : String → BidiClass
  | "L" => .l
  | "R" => .r
  | "A" => .al
  | "E" => .en
  | "S" => .es
  | "T" => .et
  | "N" => .an
  | "C" => .cs
  | "M" => .nsm
  | "B" => .bn
  | "O" => .on
  | _ => .other

-- Bidirectional classes as ranges, one letter each (`A` for `AL`, `E` for `EN`, `S` for
-- `ES`, `T` for `ET`, `N` for `AN`, `C` for `CS`, `M` for `NSM`, `B` for `BN`, `O` for `ON`, `X`
-- for the rest).
def bidiClasses : CodeTable BidiClass :=
  CodeTable.ofText BidiClass.ofLetter
    (String.join
      ["0B,9X,5B,eX,5O,2T,3O,5S,1C,1S,1C,2E,aC,1O,6L,1aO,6L,1aO,4B,6X,1B,1aC,1O,1T,4O,4L,1O,2B,1O,",
       "2T,2E,2O,1L,1O,3E,1L,1O,5L,17O,1L,1fO,1L,1c1O,2L,7O,eL,2O,eL,5O,9L,1O,11M,70L,4O,2L,8O,1L,",
       "5O,2L,1O,1L,6eO,1L,8cM,7L,100O,5T,2M,2dR,1M,1R,1M,2R,1M,2R,1M,9R,30N,6O,2A,1T,2A,1C,1A,1O,",
       "2M,bA,30M,15N,aT,1N,2A,3M,1A,65M,7N,1O,1M,6A,2M,2O,1M,4A,2E,aA,17M,1A,1eM,1dA,59M,bA,fR,2b",
       "M,9R,2O,4R,3M,1R,18M,4R,1M,9R,1M,3R,1M,7R,29M,5R,2A,30N,8M,8A,2aM,18N,1M,20L,37M,1L,1M,1L,",
       "4M,8L,4M,1L,3M,7L,aM,2L,1dM,1L,3aM,1L,4M,6L,6M,1L,14M,4L,cT,2L,7T,1L,2M,5L,39M,2L,3M,18L,1",
       "7M,2L,3M,1L,bM,2L,39M,1L,4M,8L,4M,3L,12M,4L,bT,8L,1M,8L,3aM,1L,2M,1L,1M,6L,6M,aL,bM,4L,1cM",
       ",1L,3dM,1L,cM,3L,23O,6T,1O,6M,1L,3M,1L,37M,1L,1M,3L,5M,12L,aM,4L,12O,7L,2M,1L,3aM,1L,fM,9L",
       ",dM,4L,1aM,2L,39M,2L,4M,5L,7M,1L,14M,4L,1bM,1L,48M,5L,3M,6L,59M,1L,2M,bT,1L,7M,8L,62M,1L,2",
       "M,9L,bM,8L,48M,2L,1bM,1L,1M,1L,1M,1O,4L,33M,eL,1M,5L,1M,2L,5M,31L,8M,1L,66M,4L,1M,6L,1M,2L",
       ",2M,2L,19M,2L,4M,3L,10M,4L,dM,1L,2M,2L,6M,1L,fM,1L,2bfM,3L,30O,10L,60O,1L,27fX,1L,1aO,5L,7",
       "2M,3L,1dM,2L,1eM,eL,12M,eL,34M,2L,1M,7L,8M,1L,2M,bL,7T,1L,1M,3L,10O,1bM,3B,1M,1L,75M,2L,22",
       "M,1L,76M,3L,4M,2L,9M,1L,6M,7O,6L,98O,22L,17M,2L,2M,3L,38M,1L,1M,9L,1M,1L,2M,8L,6M,dL,30M,5",
       "4L,30M,1L,1M,5L,1M,1L,5M,1L,28M,9L,cM,2L,20M,4L,2M,2L,1M,3L,38M,1L,1M,2L,3M,1L,1M,3L,3aM,8",
       "L,2M,5L,95M,3L,1M,dL,1M,7L,4M,1L,6M,1L,3M,2L,c6M,40L,1bdO,1L,1O,3L,bO,3L,dO,3L,dO,5L,bO,3X",
       ",bB,3L,1R,1O,18X,7C,1T,5O,fC,1O,1aX,1B,6X,4B,6E,1L,3E,6S,2O,3L,1E,aS,2O,4L,10T,30M,30O,2L,",
       "1O,4L,1O,2L,aO,1L,1O,3L,5O,6L,1O,1L,1O,1L,1O,1L,4T,1L,bO,2L,4O,5L,5O,4L,2O,10L,29O,89S,1T,",
       "1O,122L,45O,1aL,1O,f2E,14L,4eO,1c2L,1O,153L,100O,300L,e5O,6L,4M,3L,7O,7L,7fM,1L,60M,20O,20",
       "0X,1O,4L,3O,19L,9M,4L,2O,1L,5O,2L,5O,4L,58M,2O,2L,3O,1L,5aO,1L,c4O,30L,2dO,3L,30O,10L,1cO,",
       "3L,32O,fL,cO,4L,a7O,4L,63O,2L,1fO,1L,19c0O,40L,5690O,40L,13dO,3L,5fM,4O,1M,aO,2L,1eM,2L,50",
       "M,2L,eO,22L,66O,1L,79M,1L,3M,1L,4M,1L,19M,2L,1O,4M,4L,8T,8L,34O,cL,44M,aL,12M,12L,dM,1L,26",
       "M,8L,19M,bL,2eM,3L,30M,1L,2M,4L,2M,2L,27M,1L,43M,6L,2M,2L,2M,bL,3M,1L,8M,1L,2fM,1L,33M,1L,",
       "1M,3L,2M,2L,5M,2L,1M,1L,2aM,2L,8M,bL,69O,6L,75M,1L,2M,1L,4M,3L,4f2dR,1M,1R,aS,1R,26A,1eeO,",
       "12A,7fO,21A,dO,3M,10O,10M,10O,20C,1O,1C,2O,1C,1O,9T,1O,2S,2O,5T,2O,5A,8fB,2O,2T,3O,5S,1C,1",
       "S,1C,2E,aC,1O,6L,1aO,6L,1aO,bL,7aT,2O,3T,3O,18L,101O,1L,3eO,4dL,3O,40L,2dM,83L,60M,1E,1fL,",
       "76M,aL,480R,11fO,1R,e1M,fR,28M,8R,a5M,6R,4eO,7R,1c0A,24M,cN,150R,2bM,2R,50M,3R,30A,16M,bA,",
       "1fR,12M,4R,7aL,1M,1L,36M,fL,bO,14L,aM,1L,2M,2L,aM,3L,31M,4L,2M,2L,7M,bL,33M,3L,24M,5L,1M,9",
       "L,3dM,1L,cM,2L,34M,9L,aM,4L,2M,1L,5fM,3L,2M,1L,1M,2L,6M,1L,2M,3fL,5fM,1L,3M,dL,10M,2L,39M,",
       "2L,3M,1L,25M,9aL,38M,8L,2M,3L,1M,1L,17M,1L,54M,6L,1M,1L,4M,2L,1M,2L,eeM,6L,4M,2L,1M,2L,1bM",
       ",24L,33M,8L,2M,1L,1M,2L,1fO,20L,2bM,1L,1M,1L,2M,6L,1M,1L,65M,3L,2M,4L,1M,9L,ffM,9L,1M,2L,1",
       "00M,2L,1M,1L,4M,1L,90M,8L,4M,1L,20M,6L,2M,2L,28M,6L,2M,4L,8M,9L,1M,6L,2M,3L,2eM,dL,1M,2L,1",
       "96M,eL,54M,17L,1M,7L,1M,2L,1M,4bL,31M,15L,1M,9L,40M,3L,2M,1L,1M,1L,15bM,2L,bM,2L,34M,8L,2M",
       ",1L,1M,1L,92O,8T,4O,1eL,1441M,1L,6M,fb9L,26f0M,5L,3bM,7L,418M,1L,3fM,4L,4fO,1L,1M,cL,4cadM",
       ",2L,1B,1260M,50L,217M,3L,9B,8M,8L,2M,7L,1eM,4L,3bO,59M,3O,7bL,40O,60L,37bO,1L,39O,1L,39O,1",
       "L,39O,1L,39O,1L,aE,32L,200M,37L,4M,32L,8M,1L,eM,1L,16M,465L,100M,30L,5fM,71L,30M,7L,177M,1",
       "2L,2cM,4L,fT,1d1L,1cM,4L,310R,d0M,30R,44M,7R,326A,27fO,210E,bO,5L,1fO,1L,3aO,6L,3dO,39L,7a",
       "O,990E,410L,c0001B,ffM,ff00L"])

def bidiClass (c : Nat) : BidiClass := bidiClasses.rangeValue .l c

end Unicode

end JobDispatch
