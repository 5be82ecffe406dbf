import JobDispatch.Text.Unicode.Table

namespace JobDispatch

namespace Unicode

-- Whether code points are marks, as ranges: `M` for marks, `N` for others.
def markRanges : CodeTable Bool :=
  CodeTable.ofText (fun v => v == "M")
    (String.join
      ["0N,300M,70N,113M,7N,107M,2dN,1M,1N,1M,2N,1M,2N,1M,9N,40M,bN,30M,15N,10M,1N,65M,7N,2M,6N,2M",
       ",2N,1M,4N,23M,1N,1eM,1dN,59M,bN,3aM,9N,9M,1N,18M,4N,1M,9N,1M,3N,1M,7N,29M,5N,3aM,8N,2aM,18",
       "N,1M,21N,36M,3N,1M,12N,1M,7N,aM,2N,1dM,4N,37M,1N,1M,10N,9M,5N,6M,4N,18M,7N,37M,1dN,17M,2N,",
       "3M,1N,bM,4N,37M,1N,1M,12N,12M,4N,14M,bN,37M,1N,1M,1eN,6M,4N,1cM,1N,3bM,12N,7M,fN,1aM,5N,37",
       "M,1N,1M,1aN,aM,4N,1bM,3N,38M,1N,1M,1fN,5M,4N,dM,11N,37M,2N,1M,10N,9M,1N,aM,4N,1bM,4N,45M,1",
       "cN,cM,2N,3dM,1N,2M,bN,8M,8N,62M,1N,2M,9N,bM,8N,48M,2N,1bM,1N,1M,1N,1M,1N,4M,2N,31M,14N,1M,",
       "2N,5M,31N,8M,1N,64M,14N,17M,4N,4M,3N,1M,3N,2M,7N,3M,4N,dM,cN,1M,1N,aM,4N,2bfM,3N,3b2M,dN,1",
       "3M,3N,1dM,eN,12M,eN,34M,20N,9M,3N,2bM,3N,1M,1N,75M,2N,22M,1N,76M,20N,d7M,7N,37M,2bN,30M,55",
       "N,2fM,11N,26M,9N,cM,3N,1eM,dN,38M,16N,28M,17N,95M,3N,1M,15N,4M,1N,6M,1N,2M,3N,c6M,40N,2d0M",
       ",30N,befM,3N,8dM,1N,60M,20N,22aM,6N,69M,2N,75d4M,4N,1M,aN,20M,2N,50M,2N,110M,1N,3M,1N,4M,1",
       "N,17M,5N,4M,4N,50M,2N,32M,1aN,12M,12N,dM,1N,26M,8N,19M,18N,21M,4N,2fM,eN,24M,1N,43M,17N,3M",
       ",1N,8M,4N,2bM,3N,32M,1N,1M,3N,2M,2N,5M,2N,1M,1N,29M,5N,5M,cN,e2M,8N,1M,4N,4f2eM,1N,2e1M,10",
       "N,10M,10N,3cdM,83N,60M,1N,95M,aN,681M,fN,28M,8N,a5M,6N,239M,cN,17bM,2N,50M,3N,46M,bN,31M,4",
       "N,7aM,3N,35M,fN,29M,1N,2M,2N,aM,4N,2dM,bN,7M,bN,33M,3N,24M,fN,fM,2N,2cM,1N,cM,3N,30M,eN,8M",
       ",4N,1M,2N,5cM,cN,6M,1N,2M,3fN,5fM,11N,10M,5N,36M,2N,1M,12N,7M,6N,5M,9eN,35M,12N,17M,1N,51M",
       ",14N,ebM,12N,1bM,24N,30M,11N,6aM,dN,65M,13N,fcM,fN,f5M,fN,1M,1N,1M,2N,8dM,10N,3M,1cN,1M,aN",
       ",28M,7N,1M,4N,8M,9N,1M,bN,2eM,10N,195M,11N,52M,6eN,31M,15N,1M,9N,3aM,eN,15bM,4N,9M,2N,1M,1",
       "N,30M,fN,14fdM,1N,6M,fb9N,26f0M,5N,3bM,7N,418M,1N,1M,42N,51M,1cN,4c9dM,2N,1261M,50N,215M,5",
       "N,3M,6N,8M,8N,2M,7N,1eM,4N,94M,3N,7bbM,37N,4M,32N,8M,1N,eM,1N,16M,465N,100M,30N,5fM,71N,30",
       "M,7N,177M,12N,2cM,4N,1fcM,4N,3e0M,30N,44M,7N,c17b5M,ff00N"])

def isMark (c : Nat) : Bool := markRanges.rangeValue false c

end Unicode

end JobDispatch
