/-!
# Names of characters

The names of characters from version 14 of the Unicode character database, but for those that follow
from the code point by a rule, and the further names that are known as aliases.
-/

namespace Wordbook
namespace Unicode

/-- Marks in the table of names, and the characters that each stands for. -/
def nameMarks : List (Char × String) := [
  ('!', "L_LETTER_"), ('#', "_WITH_"), ('$', "CAPITAL_LETTER_"), ('%', "AL"), ('&', "AR"),
  ('(', "IGHT"), (')', "_FORM"), ('*', "IN"), ('+', "LE"), (',', "ER"), ('.', "AN"),
  (':', "_ARROW"), (';', "ON"), ('<', "_S"), ('>', "_ISOLATED_FORM"), ('?', "_ABOVE"),
  ('@', "SMALL_LETTER_"), ('[', "EN"), (']', "D_"), ('^', "TI"), ('|', "WARDS"), ('~', "RE")]

/-- Names from code point 20 on. -/
def namesFrom20 : List String := [
  "20=aSPACE aEXCLAMA^;_M&K aQUOTA^;_M&K aNUMB,<IGN aDOLL&<IGN aP,C[T<IGN aAMP,S.D bPOSTROPHE",
  "a+FT_P&[THESIS aR(_P&[THESIS aAST,ISK aPLUS<IGN aCOMMA aHYPH[-M*US aFULL<TOP aSOLIDUS",
  "aDIGIT_Z,O g;E gTWO hH~E gFOUR hIVE gSIX hEV[ gE( gN*E aCOL; aSEMICOL; a+SS-TH.<IGN aEQU%S<IGN",
  "aG~AT,-TH.<IGN aQUES^;_M&K aCOMM,CI%_AT aLAT*_$A vB vC vD vE vF vG vH vI vJ vK vL vM vN vO vP",
  "vQ vR vS vT vU vV vW vX vY vZ bEFT<QU&E_BRACKET a~V,SE<OLIDUS b(<QU&E_BRACKET aCIRCUMF+X_ACC[T",
  "aLOW_L*E aGRAVE_ACC[T aLAT*<M%!A tB tC tD tE tF tG tH tI tJ tK tL tM tN tO tP tQ tR tS tT tU",
  "tV tW tX tY tZ bEFT_CURLY_BRACKET aV,^C%_L*E aR(_CURLY_BRACKET a^LDE A0=aNO-B~AK<PACE",
  "a*V,TE]EXCLAMA^;_M&K aC[T<IGN aPOUND<IGN aCURR[CY<IGN aY[<IGN aBROK[_B& aSEC^;<IGN aDIA,ESIS",
  "aCOPYR(<IGN aFEM**E_ORD*%_*DICATOR a+FT-PO*T*G_DOUB+_.G+_QUOTA^;_M&K aNOT<IGN aSOFT_HYPH[",
  "a~GIST,ED<IGN aMACR; aDEG~E<IGN aPLUS-M*US<IGN aSUP,SCRIPT_TWO nH~E aACUTE_ACC[T aMICRO<IGN",
  "aPILCROW<IGN aMIDD+_DOT aCEDILLA aSUP,SCRIPT_;E aMASCUL*E_ORD*%_*DICATOR",
  "aR(-PO*T*G_DOUB+_.G+_QUOTA^;_M&K aVULG&_FRAC^;_;E_QU&T, uH%F qTH~E_QU&T,S a*V,TE]QUES^;_M&K",
  "aLAT*_$A#GRAVE bcACUTE bcCIRCUMF+X bc^LDE bcDIA,ESIS bcR*G? wE vC#CEDILLA vE#GRAVE bcACUTE",
  "bcCIRCUMF+X bcDIA,ESIS vI#GRAVE bcACUTE bcCIRCUMF+X bcDIA,ESIS vETH vN#^LDE vO#GRAVE bcACUTE",
  "bcCIRCUMF+X bc^LDE bcDIA,ESIS aMUL^PLICA^;<IGN aLAT*_$O#STROKE vU#GRAVE bcACUTE bcCIRCUMF+X",
  "bcDIA,ESIS vY#ACUTE vTHORN g@SH&P< tA#GRAVE baACUTE baCIRCUMF+X ba^LDE baDIA,ESIS baR*G? uE",
  "tC#CEDILLA tE#GRAVE baACUTE baCIRCUMF+X baDIA,ESIS tI#GRAVE baACUTE baCIRCUMF+X baDIA,ESIS",
  "tETH tN#^LDE tO#GRAVE baACUTE baCIRCUMF+X ba^LDE baDIA,ESIS aDIVISI;<IGN aLAT*<M%!O#STROKE",
  "tU#GRAVE baACUTE baCIRCUMF+X baDIA,ESIS tY#ACUTE tTHORN tY#DIA,ESIS g$A#MACR; g@A#MACR;",
  "g$A#B~VE g@A#B~VE g$A#OG;EK g@A#OG;EK g$C#ACUTE g@C#ACUTE g$C#CIRCUMF+X g@C#CIRCUMF+X g$C#DOT?",
  "g@C#DOT? g$C#C&; g@C#C&; g$D#C&; g@D#C&; g$D#STROKE g@D#STROKE g$E#MACR; g@E#MACR; g$E#B~VE",
  "g@E#B~VE g$E#DOT? g@E#DOT? g$E#OG;EK g@E#OG;EK g$E#C&; g@E#C&; g$G#CIRCUMF+X g@G#CIRCUMF+X",
  "g$G#B~VE g@G#B~VE g$G#DOT? g@G#DOT? g$G#CEDILLA g@G#CEDILLA g$H#CIRCUMF+X g@H#CIRCUMF+X",
  "g$H#STROKE g@H#STROKE g$I#^LDE g@I#^LDE g$I#MACR; g@I#MACR; g$I#B~VE g@I#B~VE g$I#OG;EK",
  "g@I#OG;EK g$I#DOT? g@DOT+SS_I gCAPIT%_LIGATU~_IJ gSM%L_LIGATU~_IJ g$J#CIRCUMF+X g@J#CIRCUMF+X",
  "g$K#CEDILLA g@K#CEDILLA uRA g$L#ACUTE g@L#ACUTE g$L#CEDILLA g@L#CEDILLA g$L#C&; g@L#C&;",
  "g$L#MIDD+_DOT g@L#MIDD+_DOT g$L#STROKE g@L#STROKE g$N#ACUTE g@N#ACUTE g$N#CEDILLA g@N#CEDILLA",
  "g$N#C&; g@N#C&; vP~CEDE]BY_APOSTROPHE g$[G g@[G g$O#MACR; g@O#MACR; g$O#B~VE g@O#B~VE",
  "g$O#DOUB+_ACUTE g@O#DOUB+_ACUTE gCAPIT%_LIGATU~_OE gSM%L_LIGATU~_OE g$R#ACUTE g@R#ACUTE",
  "g$R#CEDILLA g@R#CEDILLA g$R#C&; g@R#C&; g$S#ACUTE g@S#ACUTE g$S#CIRCUMF+X g@S#CIRCUMF+X",
  "g$S#CEDILLA g@S#CEDILLA g$S#C&; g@S#C&; g$T#CEDILLA g@T#CEDILLA g$T#C&; g@T#C&; g$T#STROKE",
  "g@T#STROKE g$U#^LDE g@U#^LDE g$U#MACR; g@U#MACR; g$U#B~VE g@U#B~VE g$U#R*G? g@U#R*G?",
  "g$U#DOUB+_ACUTE g@U#DOUB+_ACUTE g$U#OG;EK g@U#OG;EK g$W#CIRCUMF+X g@W#CIRCUMF+X g$Y#CIRCUMF+X",
  "g@Y#CIRCUMF+X g$Y#DIA,ESIS vZ#ACUTE g@Z#ACUTE g$Z#DOT? g@Z#DOT? g$Z#C&; g@Z#C&; tL;G<",
  "tB#STROKE g$B#HOOK bcTOPB& g@B#TOPB& g$T;E<IX g@T;E<IX g$OP[_O vC#HOOK g@C#HOOK g$AFRIC._D",
  "vD#HOOK bcTOPB& g@D#TOPB& tTURNE]DELTA g$~V,SE]E vSCHWA vOP[_E vF#HOOK g@F#HOOK g$G#HOOK wAMMA",
  "g@HV g$IOTA w#STROKE vK#HOOK g@K#HOOK tL#B& uAMBDA#STROKE g$TURNE]M vN#+FT_HOOK g@N#L;G_R(_+G",
  "g$O#MIDD+_^LDE bcHORN g@O#HORN g$OI g@OI g$P#HOOK g@P#HOOK g+TT,_YR g$T;E_TWO g@T;E_TWO g$ESH",
  "g+TT,_~V,SE]ESH_LOOP g@T#P%AT%_HOOK g$T#HOOK g@T#HOOK g$T#~TROF+X_HOOK vU#HORN g@U#HORN",
  "g$UPSIL; vV#HOOK vY#HOOK g@Y#HOOK g$Z#STROKE g@Z#STROKE g$EZH y_~V,SED g@EZH_~V,SED xWITH_TAIL",
  "g+TT,_TWO#STROKE g$T;E_FIVE g@T;E_FIVE g+TT,_*V,TE]GLOTT%<TOP#STROKE nWYNN nD[T%_CLICK",
  "nLAT,%_CLICK n%VEOL&_CLICK n~TROF+X_CLICK g$DZ#C&; w#@Z#C&; g@DZ#C&; g$LJ w#@J g@LJ g$NJ w#@J",
  "g@NJ g$A#C&; g@A#C&; g$I#C&; g@I#C&; g$O#C&; g@O#C&; g$U#C&; g@U#C&; g$U#DIA,ESIS_.]MACR;",
  "g@U#DIA,ESIS_.]MACR; g$U#DIA,ESIS_.]ACUTE g@U#DIA,ESIS_.]ACUTE g$U#DIA,ESIS_.]C&;",
  "g@U#DIA,ESIS_.]C&; g$U#DIA,ESIS_.]GRAVE g@U#DIA,ESIS_.]GRAVE tTURNE]E g$A#DIA,ESIS_.]MACR;",
  "g@A#DIA,ESIS_.]MACR; g$A#DOT?_.]MACR; g@A#DOT?_.]MACR; g$AE#MACR; g@AE#MACR; g$G#STROKE",
  "g@G#STROKE g$G#C&; g@G#C&; g$K#C&; g@K#C&; g$O#OG;EK g@O#OG;EK g$O#OG;EK_.]MACR;",
  "g@O#OG;EK_.]MACR; g$EZH#C&; g@EZH#C&; tJ#C&; g$DZ w#@Z g@DZ g$G#ACUTE g@G#ACUTE g$HWAIR vWYNN",
  "vN#GRAVE g@N#GRAVE g$A#R*G?_.]ACUTE g@A#R*G?_.]ACUTE g$AE#ACUTE g@AE#ACUTE g$O#STROKE_.]ACUTE",
  "g@O#STROKE_.]ACUTE g$A#DOUB+_GRAVE g@A#DOUB+_GRAVE g$A#*V,TE]B~VE g@A#*V,TE]B~VE",
  "g$E#DOUB+_GRAVE g@E#DOUB+_GRAVE g$E#*V,TE]B~VE g@E#*V,TE]B~VE g$I#DOUB+_GRAVE g@I#DOUB+_GRAVE",
  "g$I#*V,TE]B~VE g@I#*V,TE]B~VE g$O#DOUB+_GRAVE g@O#DOUB+_GRAVE g$O#*V,TE]B~VE g@O#*V,TE]B~VE",
  "g$R#DOUB+_GRAVE g@R#DOUB+_GRAVE g$R#*V,TE]B~VE g@R#*V,TE]B~VE g$U#DOUB+_GRAVE g@U#DOUB+_GRAVE",
  "g$U#*V,TE]B~VE g@U#*V,TE]B~VE g$S#COMMA_BELOW g@S#COMMA_BELOW g$T#COMMA_BELOW g@T#COMMA_BELOW",
  "g$YOGH g@YOGH g$H#C&; g@H#C&; g$N#L;G_R(_+G g@D#CURL g$OU g@OU g$Z#HOOK g@Z#HOOK g$A#DOT?",
  "g@A#DOT? g$E#CEDILLA g@E#CEDILLA g$O#DIA,ESIS_.]MACR; g@O#DIA,ESIS_.]MACR; g$O#^LDE_.]MACR;",
  "g@O#^LDE_.]MACR; g$O#DOT? g@O#DOT? g$O#DOT?_.]MACR; g@O#DOT?_.]MACR; g$Y#MACR; g@Y#MACR;",
  "tL#CURL tN#CURL tT#CURL tDOT+SS_J uB_DIGRAPH tQP_DIGRAPH g$A#STROKE vC#STROKE g@C#STROKE",
  "g$L#B& vT#DIAG;%<TROKE g@S#SWASH_TAIL tZ#SWASH_TAIL g$GLOTT%<TOP g@GLOTT%<TOP g$B#STROKE vU_B&",
  "vTURNE]V vE#STROKE g@E#STROKE g$J#STROKE g@J#STROKE g$SM%L_Q#HOOK_TAIL g@Q#HOOK_TAIL",
  "g$R#STROKE g@R#STROKE g$Y#STROKE g@Y#STROKE tTURNE]A t%PHA tTURNE]%PHA tB#HOOK tOP[_O tC#CURL",
  "tD#TAIL baHOOK t~V,SE]E tSCHWA y#HOOK tOP[_E t~V,SE]OP[_E bi#HOOK tCLOSE]~V,SE]OP[_E",
  "tDOT+SS_J#STROKE tG#HOOK tSCRIPT_G g+TT,<M%L_CAPIT%_G g@GAMMA tRAMS_HORN tTURNE]H tH#HOOK",
  "u[G#HOOK tI#STROKE uOTA g+TT,<M%L_CAPIT%_I g@L#MIDD+_^LDE baBELT ba~TROF+X_HOOK uEZH tTURNE]M",
  "bb#L;G_+G tM#HOOK tN#+FT_HOOK ba~TROF+X_HOOK g+TT,<M%L_CAPIT%_N g@B&~]O g+TT,<M%L_CAPIT%_OE",
  "g@CLOSE]OMEGA tPHI tTURNE]R bb#L;G_+G bhHOOK tR#L;G_+G baTAIL baFISHHOOK uEV,SE]R#FISHHOOK",
  "g+TT,<M%L_CAPIT%_R bb*V,TE]R g@S#HOOK tESH tDOT+SS_J#STROKE_.]HOOK tSQUAT_~V,SE]ESH tESH#CURL",
  "tTURNE]T u#~TROF+X_HOOK tU_B& uPSIL; tV#HOOK tTURNE]V baW baY g+TT,<M%L_CAPIT%_Y",
  "g@Z#~TROF+X_HOOK baCURL tEZH w#CURL g+TT,_GLOTT%<TOP nPH&YNGE%_VOICE]FRICA^VE",
  "n*V,TE]GLOTT%<TOP nST~TCHE]C nBILABI%_CLICK nSM%L_CAPIT%_B g@CLOSE]OP[_E",
  "g+TT,<M%L_CAPIT%_G#HOOK bbH g@J#CROSSED-TAIL tTURNE]K g+TT,<M%L_CAPIT%_L g@Q#HOOK",
  "g+TT,_GLOTT%<TOP#STROKE n~V,SE]GLOTT%<TOP#STROKE g@DZ_DIGRAPH uEZH_DIGRAPH uZ_DIGRAPH#CURL",
  "tTS_DIGRAPH uESH_DIGRAPH uC_DIGRAPH#CURL tF[G_DIGRAPH tLS_DIGRAPH uZ_DIGRAPH",
  "g+TT,_BILABI%_P,CUSSIVE pD[T%_P,CUSSIVE g@TURNE]H#FISHHOOK bp_.]TAIL aMODIFI,_+TT,<M%L_H",
  "x#HOOK wJ wR wTURNE]R be#HOOK wCAPIT%_*V,TE]R wW wY qPRIME qDOUB+_PRIME qTURNE]COMMA",
  "qAPOSTROPHE q~V,SE]COMMA r(_H%F_R*G q+FT_H%F_R*G qGLOTT%<TOP q~V,SE]GLOTT%<TOP q+FT:HEAD",
  "qR(:HEAD qUP:HEAD qDOWN:HEAD qCIRCUMF+X_ACC[T aC&; aMODIFI,_+TT,_V,^C%_L*E qMACR; qACUTE_ACC[T",
  "qGRAVE_ACC[T qLOW_V,^C%_L*E uMACR; uGRAVE_ACC[T uACUTE_ACC[T qTRI.GUL&_COL; qH%F_TRI.GUL&_COL;",
  "qC[T~]R(_H%F_R*G y+FT_H%F_R*G qUP_TACK qDOWN_TACK qPLUS<IGN qM*US<IGN aB~VE aDOT? aR*G? aOG;EK",
  "aSM%L_^LDE aDOUB+_ACUTE_ACC[T aMODIFI,_+TT,_RHO^C_HOOK qCROSS_ACC[T qSM%L_GAMMA wL wS wX",
  "w~V,SE]GLOTT%<TOP qEXTRA-HIGH_T;E_B& qHIGH_T;E_B& qMI]T;E_B& qLOW_T;E_B& qEXTRA-LOW_T;E_B&",
  "qY*_DEP&T*G_T;E_M&K r.G_DEP&T*G_T;E_M&K qVOIC*G qUNASPIRATED qDOUB+_APOSTROPHE qLOW_DOWN:HEAD",
  "uUP:HEAD u+FT:HEAD uR(:HEAD wNG qMIDD+_GRAVE_ACC[T xDOUB+_GRAVE_ACC[T beACUTE_ACC[T qLOW_^LDE",
  "qRAISE]COL; qBEG*_HIGH_T;E q[]HIGH_T;E qBEG*_LOW_T;E q[]LOW_T;E qSHELF qOP[<HELF qLOW_+FT:",
  "aCOMB**G_GRAVE_ACC[T kACUTE_ACC[T kCIRCUMF+X_ACC[T k^LDE kMACR; kOV,L*E kB~VE kDOT? lIA,ESIS",
  "kHOOK? kR*G? kDOUB+_ACUTE_ACC[T kC&; kV,^C%_L*E? kDOUB+_V,^C%_L*E? rGRAVE_ACC[T kC.DRAB*DU",
  "k*V,TE]B~VE kTURNE]COMMA? kCOMMA? k~V,SE]COMMA? kCOMMA?_R( kGRAVE_ACC[T_BELOW",
  "kACUTE_ACC[T_BELOW k+FT_TACK_BELOW kR(_TACK_BELOW k+FT_.G+? kHORN k+FT_H%F_R*G_BELOW",
  "kUP_TACK_BELOW kDOWN_TACK_BELOW kPLUS<IGN_BELOW kM*US<IGN_BELOW kP%AT%IZE]HOOK_BELOW",
  "k~TROF+X_HOOK_BELOW kDOT_BELOW lIA,ESIS_BELOW kR*G_BELOW kCOMMA_BELOW lEDILLA kOG;EK",
  "kV,^C%_L*E_BELOW kBRIDGE_BELOW k*V,TE]DOUB+_&CH_BELOW kC&;_BELOW lIRCUMF+X_ACC[T_BELOW",
  "kB~VE_BELOW k*V,TE]B~VE_BELOW k^LDE_BELOW kMACR;_BELOW kLOW_L*E kDOUB+_LOW_L*E k^LDE_OV,LAY",
  "kSHORT<TROKE_OV,LAY kL;G<TROKE_OV,LAY kSHORT<OLIDUS_OV,LAY kL;G<OLIDUS_OV,LAY",
  "kR(_H%F_R*G_BELOW k*V,TE]BRIDGE_BELOW kSQU&E_BELOW lEAGULL_BELOW kX? kV,^C%_^LDE kDOUB+_OV,L*E",
  "kGRAVE_T;E_M&K kACUTE_T;E_M&K kG~EK_P,ISPOM[I qKOR;IS qDI%Y^KA_T;OS qYPOGEGRAMM[I kBRIDGE?",
  "kEQU%S<IGN_BELOW kDOUB+_V,^C%_L*E_BELOW k+FT_.G+_BELOW kNOT_^LDE? kHOMOTHE^C? k%MOST_EQU%_TO?",
  "k+FT_R(:_BELOW kUP|:_BELOW kGRAPHEME_JO*, kR(:HEAD? k+FT_H%F_R*G? kF,MATA kX_BELOW",
  "k+FT:HEA]BELOW kR(:HEA]BELOW ba.]UP:HEA]BELOW qH%F_R*G? kDOT?_R( kAST,ISK_BELOW",
  "kDOUB+_R*G_BELOW kZIGZAG? kDOUB+_B~VE_BELOW w rMACR; x_BELOW r^LDE r*V,TE]B~VE rR(|:_BELOW",
  "kLAT*<M%!A bdE bdI bdO bdU bdC bdD bdH bdM bdR bdT bdV bdX aG~EK_$HETA g@HETA g$&CHAIC<AMPI",
  "g@&CHAIC<AMPI gNUM,%<IGN gLOW,_NUM,%<IGN g$PAMPHYLI._DIGAMMA g@PAMPHYLI._DIGAMMA",
  "37A=gYPOGEGRAMM[I gSM%L_~V,SE]LUNATE<IGMA<YMBOL mDOTTE]LUNATE<IGMA<YMBOL",
  "m~V,SE]DOTTE]LUNATE<IGMA<YMBOL gQUES^;_M&K g$YOT 384=gT;OS gDI%Y^KA_T;OS g$%PHA#T;OS g.O_TE+IA",
  "g$EPSIL;#T;OS wTA#T;OS vIOTA#T;OS 38C=vOMICR;#T;OS 38E=vUPSIL;#T;OS vOMEGA#T;OS",
  "g@IOTA#DI%Y^KA_.]T;OS g$%PHA vBETA vGAMMA vDELTA vEPSIL; vZETA vETA vTHETA vIOTA vKAPPA vLAMDA",
  "vMU vNU vXI vOMICR; vPI vRHO 3A3=vSIGMA vTAU vUPSIL; vPHI vCHI vPSI vOMEGA vIOTA#DI%Y^KA",
  "vUPSIL;#DI%Y^KA g@%PHA#T;OS tEPSIL;#T;OS uTA#T;OS tIOTA#T;OS tUPSIL;#DI%Y^KA_.]T;OS t%PHA",
  "tBETA tGAMMA tDELTA tEPSIL; tZETA tETA tTHETA tIOTA tKAPPA tLAMDA tMU tNU tXI tOMICR; tPI tRHO",
  "tF*%<IGMA tSIGMA tTAU tUPSIL; tPHI tCHI tPSI tOMEGA tIOTA#DI%Y^KA tUPSIL;#DI%Y^KA tOMICR;#T;OS",
  "tUPSIL;#T;OS tOMEGA#T;OS gCAPIT%_KAI<YMBOL gBETA<YMBOL gTHETA<YMBOL gUPSIL;#HOOK<YMBOL",
  "tACUTE_.]HOOK<YMBOL tDIA,ESIS_.]HOOK<YMBOL gPHI<YMBOL hI<YMBOL gKAI<YMBOL g+TT,_&CHAIC_KOPPA",
  "g@&CHAIC_KOPPA g+TT,<^GMA g@S^GMA g+TT,_DIGAMMA g@DIGAMMA g+TT,_KOPPA g@KOPPA g+TT,<AMPI",
  "g@SAMPI aCOP^C_$SHEI h@SHEI h$FEI h@FEI h$KHEI h@KHEI h$HORI h@HORI h$G.GIA h@G.GIA h$SHIMA",
  "h@SHIMA h$DEI h@DEI aG~EK_KAPPA<YMBOL gRHO<YMBOL gLUNATE<IGMA<YMBOL hETT,_YOT",
  "gCAPIT%_THETA<YMBOL gLUNATE_EPSIL;<YMBOL g~V,SE]LUNATE_EPSIL;<YMBOL g$SHO g@SHO",
  "gCAPIT%_LUNATE<IGMA<YMBOL pETT,<. g@S. gRHO#STROKE<YMBOL gCAPIT%_~V,SE]LUNATE<IGMA<YMBOL",
  "oDOTTE]LUNATE<IGMA<YMBOL o~V,SE]DOTTE]LUNATE<IGMA<YMBOL aCYRILLIC_$IE#GRAVE zO yDJE yGJE",
  "yUKRA*I._IE yDZE yBYELORUSSI.-UKRA*I._I yYI yJE yLJE yNJE yTSHE yKJE yI#GRAVE ySHORT_U yDZHE",
  "yA yBE yVE yGHE yDE yIE yZHE zE yI ySHORT_I yKA yEL zM zN yO yPE y, zS yTE yU yEF yHA yTSE",
  "yCHE ySHA baCHA yH&D<IGN yY,U ySOFT<IGN yE yYU zA j@A wBE wVE wGHE wDE wIE wZHE xE wI wSHORT_I",
  "wKA wEL xM xN wO wPE w, xS wTE wU wEF wHA wTSE wCHE wSHA yCHA wH&D<IGN wY,U wSOFT<IGN wE wYU",
  "xA wIE#GRAVE xO wDJE wGJE wUKRA*I._IE wDZE wBYELORUSSI.-UKRA*I._I wYI wJE wLJE wNJE wTSHE wKJE",
  "wI#GRAVE wSHORT_U wDZHE j$OMEGA j@OMEGA j$YAT j@YAT j$IO^FIE]E j@IO^FIE]E j$LITT+_YUS",
  "j@LITT+_YUS j$IO^FIE]LITT+_YUS j@IO^FIE]LITT+_YUS j$BIG_YUS j@BIG_YUS j$IO^FIE]BIG_YUS",
  "j@IO^FIE]BIG_YUS j$KSI j@KSI j$PSI j@PSI j$FITA j@FITA j$IZHITSA j@IZHITSA",
  "j$IZHITSA#DOUB+_GRAVE_ACC[T j@IZHITSA#DOUB+_GRAVE_ACC[T j$UK j@UK j$ROUN]OMEGA j@ROUN]OMEGA",
  "j$OMEGA#^TLO j@OMEGA#^TLO j$OT j@OT j$KOPPA j@KOPPA jTHOUS.DS<IGN bOMB**G_CYRILLIC_^TLO",
  "tP%AT%IZA^; tDASIA_PNEUMATA tPSILI_PNEUMATA uOKRY^E tHUND~]THOUS.DS<IGN tMILLI;S<IGN",
  "bYRILLIC_$SHORT_I#TAIL j@SHORT_I#TAIL j$SEMISOFT<IGN j@SEMISOFT<IGN j$,#^CK j@,#^CK",
  "j$GHE#UPTURN j@GHE#UPTURN j$GHE#STROKE j@GHE#STROKE j$GHE#MIDD+_HOOK j@GHE#MIDD+_HOOK",
  "j$ZHE#DESC[D, j@ZHE#DESC[D, j$ZE#DESC[D, j@ZE#DESC[D, j$KA#DESC[D, j@KA#DESC[D,",
  "j$KA#V,^C%<TROKE j@KA#V,^C%<TROKE j$KA#STROKE j@KA#STROKE j$BASHKIR_KA j@BASHKIR_KA",
  "j$[#DESC[D, j@[#DESC[D, jCAPIT%_LIGATU~_[_GHE jSM%L_LIGATU~_[_GHE j$PE#MIDD+_HOOK",
  "j@PE#MIDD+_HOOK j$ABKHASI._HA j@ABKHASI._HA j$ES#DESC[D, j@ES#DESC[D, j$TE#DESC[D,",
  "j@TE#DESC[D, j$STRA(_U j@STRA(_U j$STRA(_U#STROKE j@STRA(_U#STROKE j$HA#DESC[D, j@HA#DESC[D,",
  "jCAPIT%_LIGATU~_TE_TSE jSM%L_LIGATU~_TE_TSE j$CHE#DESC[D, j@CHE#DESC[D, j$CHE#V,^C%<TROKE",
  "j@CHE#V,^C%<TROKE j$SHHA j@SHHA j$ABKHASI._CHE j@ABKHASI._CHE j$ABKHASI._CHE#DESC[D,",
  "j@ABKHASI._CHE#DESC[D, j+TT,_P%OCHKA j$ZHE#B~VE j@ZHE#B~VE j$KA#HOOK j@KA#HOOK j$EL#TAIL",
  "j@EL#TAIL j$[#HOOK j@[#HOOK j$[#TAIL j@[#TAIL j$KHAKASSI._CHE j@KHAKASSI._CHE j$EM#TAIL",
  "j@EM#TAIL wP%OCHKA j$A#B~VE j@A#B~VE j$A#DIA,ESIS j@A#DIA,ESIS jCAPIT%_LIGATU~_A_IE",
  "jSM%L_LIGATU~_A_IE j$IE#B~VE j@IE#B~VE j$SCHWA j@SCHWA j$SCHWA#DIA,ESIS j@SCHWA#DIA,ESIS",
  "j$ZHE#DIA,ESIS j@ZHE#DIA,ESIS j$ZE#DIA,ESIS j@ZE#DIA,ESIS j$ABKHASI._DZE j@ABKHASI._DZE",
  "j$I#MACR; j@I#MACR; j$I#DIA,ESIS j@I#DIA,ESIS j$O#DIA,ESIS j@O#DIA,ESIS j$B&~]O j@B&~]O",
  "j$B&~]O#DIA,ESIS j@B&~]O#DIA,ESIS j$E#DIA,ESIS j@E#DIA,ESIS j$U#MACR; j@U#MACR; j$U#DIA,ESIS",
  "j@U#DIA,ESIS j$U#DOUB+_ACUTE j@U#DOUB+_ACUTE j$CHE#DIA,ESIS j@CHE#DIA,ESIS j$GHE#DESC[D,",
  "j@GHE#DESC[D, j$Y,U#DIA,ESIS j@Y,U#DIA,ESIS j$GHE#STROKE_.]HOOK j@GHE#STROKE_.]HOOK j$HA#HOOK",
  "j@HA#HOOK j$HA#STROKE j@HA#STROKE j$KOMI_DE j@KOMI_DE j$KOMI_DJE j@KOMI_DJE j$KOMI_ZJE",
  "j@KOMI_ZJE j$KOMI_DZJE j@KOMI_DZJE j$KOMI_LJE j@KOMI_LJE j$KOMI_NJE j@KOMI_NJE j$KOMI<JE",
  "j@KOMI<JE j$KOMI_TJE j@KOMI_TJE j$~V,SE]ZE j@~V,SE]ZE j$EL#HOOK j@EL#HOOK j$LHA j@LHA j$RHA",
  "j@RHA j$YAE j@YAE j$QA j@QA j$WE j@WE j$%EUT_KA j@%EUT_KA j$EL#MIDD+_HOOK j@EL#MIDD+_HOOK",
  "j$[#MIDD+_HOOK j@[#MIDD+_HOOK j$PE#DESC[D, j@PE#DESC[D, j$SHHA#DESC[D, j@SHHA#DESC[D,",
  "j$[#+FT_HOOK j@[#+FT_HOOK j$DZZHE j@DZZHE j$DCHE j@DCHE j$EL#DESC[D, j@EL#DESC[D,",
  "531=a&M[I._$AYB yB[ yGIM yDA yECH yZA yEH zT yTO yZHE y*I yLIWN yXEH yCA yK[ yHO yJA yGHAD",
  "yCHEH yM[ yYI yNOW ySHA yVO yCHA yPEH yJHEH yRA ySEH yVEW y^WN y~H yCO yYIWN yPIWR yKEH yOH",
  "yFEH 559=jMODIFI,_+TT,_+FT_H%F_R*G jAPOSTROPHE jEMPHASIS_M&K kXCLAMA^;_M&K jCOMMA jQUES^;_M&K",
  "jABB~VIA^;_M&K j@TURNE]AYB wAYB wB[ wGIM wDA wECH wZA wEH xT wTO wZHE w*I wLIWN wXEH wCA wK[",
  "wHO wJA wGHAD wCHEH wM[ wYI wNOW wSHA wVO wCHA wPEH wJHEH wRA wSEH wVEW w^WN w~H wCO wYIWN",
  "wPIWR wKEH wOH wFEH qIGATU~_ECH_YIWN qETT,_YI#STROKE jFULL<TOP jHYPH[",
  "58D=aR(-FAC*G_&M[I._ET,NITY<IGN a+FT-FAC*G_&M[I._ET,NITY<IGN a&M[I._DRAM<IGN",
  "591=aHEB~W_ACC[T_ETNAHTA oSEGOL pH%SHE+T oZAQEF_QAT. uGADOL o^PEHA o~VIA oZ&QA oPASHTA oYE^V",
  "oTEVIR oG,ESH u_MUQDAM rSHAYIM oQ&NEY_P&A oTELISHA_GEDOLA oPAZ, oATNAH_HAFUKH oMUNAH pAHAPAKH",
  "p,KHA u_KEFULA oD&GA oQADMA oTELISHA_QET.A oY,AH_B[_YOMO oO+ oILUY oDEHI oZ*OR",
  "hM&K_MASORA_CIRC+ hPO*T<HEVA nHATAF<EGOL tPATAH tQAMATS oIRIQ nTS,E nSEGOL nPATAH nQAMATS",
  "nHOLAM s_HAS,_FOR_VAV nQUBUTS nDAGESH_OR_MAPIQ nMETEG iUNCTUA^;_MAQAF iO*T_RAFE",
  "iUNCTUA^;_PASEQ iO*T<H*_DOT o*_DOT iUNCTUA^;<OF_PASUQ hM&K_UPP,_DOT mLOW,_DOT",
  "hPUNCTUA^;_NUN_HAFUKHA iO*T_QAMATS_QAT. 5D0=h+TT,_%EF oBET oGIMEL oD%ET oHE oVAV oZAY* oHET",
  "oTET oYOD oF*%_KAF oKAF oLAMED oF*%_MEM oMEM oF*%_NUN oNUN oSAMEKH oAY* oF*%_PE oPE oF*%_TSADI",
  "oTSADI oQOF o~SH oSH* oTAV 5EF=hYO]TRI.G+ hLIGATU~_YIDDISH_DOUB+_VAV yVAV_YOD yDOUB+_YOD",
  "hPUNCTUA^;_G,ESH wSHAYIM 600=a&ABIC_NUMB,<IGN hSIGN<.AH hFOOTNOTE_M&K, hSIGN<AFHA oMVAT",
  "hNUMB,_M&K? g-*DIC_CUBE_ROOT nFOURTH_ROOT g_RAY g-*DIC_P,_MIL+<IGN rT[_THOUS.D<IGN bFGH.I<IGN",
  "bRABIC_COMMA hDATE<EP&ATOR hPOE^C_V,SE<IGN hSIGN_MISRA mS%L%LAHOU_%AYHE_WASS%LAM",
  "m%AYHE_ASS%LAM mRAHMATULLAH_%AYHE oDI_%LAHOU_.HU mTAKH%LUS iM%L_HIGH_TAH sLIGATU~_%EF#LAM#YEH",
  "sZA* nFATHA nDAMMA nKASRA iEMICOL; h+TT,_M&K h[]OF_TEXT_M&K hTRIP+_DOT_PUNCTUA^;_M&K",
  "hQUES^;_M&K h+TT,_KASHMIRI_YEH oHAMZA o%EF#MADDA? yHAMZA? oWAW#HAMZA? o%EF#HAMZA_BELOW",
  "oYEH#HAMZA? o%EF oBEH oTEH_M&BUTA r pHEH oJEEM oHAH oKHAH oD% oTH% o~H oZA* oSE[ pHE[ pAD oDAD",
  "oTAH oZAH oA* oGHA* oKEHEH#TWO_DOTS? baH~E_DOTS_BELOW oF&SI_YEH#*V,TE]V bdTWO_DOTS?",
  "beH~E_DOTS? hTATWEEL h+TT,_FEH oQAF oKAF oLAM oMEEM oNO; oHEH oWAW o%EF_MAKSURA oYEH hFATHAT.",
  "hDAMMAT. hKASRAT. hFATHA hDAMMA hKASRA hSHADDA iUKUN hMADDAH? hHAMZA? nBELOW hSUBSCRIPT_%EF",
  "h*V,TE]DAMMA hM&K_NO;_GHUNNA hZW&AKAY hVOWEL<IGN<M%L_V? s*V,TED<M%L_V? sDOT_BELOW h~V,SE]DAMMA",
  "hFATHA#TWO_DOTS hWAVY_HAMZA_BELOW g-*DIC_DIGIT_Z,O t;E tTWO uH~E tFOUR uIVE tSIX uEV[ tE( tN*E",
  "g_P,C[T<IGN hDECIM%<EP&ATOR hTHOUS.DS<EP&ATOR hFIVE_PO*TED<T& h+TT,_DOT+SS_BEH wQAF",
  "oSUP,SCRIPT_%EF o%EF_WASLA uITH_WAVY_HAMZA? bjBELOW oHIGH_HAMZA y_%EF zWAW oU#HAMZA?",
  "oHIGH_HAMZA_YEH oTTEH sEH oBEEH oTEH#R*G xTH~E_DOTS?_DOWN| oPEH oTEHEH oBEHEH oHAH#HAMZA?",
  "xTWO_DOTS_V,^C%? oNYEH oDYEH oHAH#TH~E_DOTS? oTCHEH tEH oDD% p%#R*G xDOT_BELOW bg_.D<M%L_TAH",
  "qH% pDAH% pUL p%#TH~E_DOTS?_DOWN| xFOUR_DOTS? oR~H pEH#SM%L_V xR*G xDOT_BELOW xSM%L_V_BELOW",
  "xDOT_BELOW_.]DOT? xTWO_DOTS? oJEH o~H#FOUR_DOTS? oSE[#DOT_BELOW_.]DOT? yTH~E_DOTS_BELOW",
  "bo_.]TH~E_DOTS? pAD#TWO_DOTS_BELOW yH~E_DOTS? oTAH#TH~E_DOTS? oA*#TH~E_DOTS? oDOT+SS_FEH",
  "oFEH#DOT_MOVE]BELOW bbBELOW oVEH oFEH#TH~E_DOTS_BELOW oPEHEH oQAF#DOT? xTH~E_DOTS? oKEHEH",
  "oSWASH_KAF oKAF#R*G xDOT? oNG oKAF#TH~E_DOTS_BELOW oGAF r#R*G oNGOEH oGAF#TWO_DOTS_BELOW pUEH",
  "pAF#TH~E_DOTS? oLAM#SM%L_V xDOT? xTH~E_DOTS? biBELOW oNO;#DOT_BELOW tGHUNNA oRNO; oNO;#R*G",
  "yTH~E_DOTS? oHEH_DOACHASHMEE oTCHEH#DOT? oHEH#YEH? sGO% w#HAMZA? oTEH_M&BUTA_GO% oWAW#R*G",
  "oKIRGHIZ_OE oOE oU oYU oKIRGHIZ_YU oWAW#TWO_DOTS? oVE oF&SI_YEH oYEH#TAIL xSM%L_V oWAW#DOT? oE",
  "oYEH#TH~E_DOTS_BELOW sB&~E y#HAMZA? hFULL<TOP h+TT,_AE hSM%L_HIGH_LIGATU~<AD#LAM#%EF_MAKSURA",
  "bbQAF#LAM#%EF_MAKSURA sMEEM_*I^%) sLAM_%EF sJEEM sTH~E_DOTS sSE[ h[]OF_AYAH",
  "hST&T_OF_RUB_EL_HIZB iM%L_HIGH_ROUNDE]Z,O sUPR(_~CT.GUL&_Z,O sDOT+SS_HEA]OF_KHAH sMEEM>",
  "nLOW<E[ nHIGH_MADDA nWAW nYEH nHIGH_YEH sNO; hPLACE_OF<AJDAH hEMPTY_C[T~_LOW<TOP uHIGH<TOP",
  "hROUNDE]HIGH<TOP#FIL+]C[T~ hSM%L_LOW_MEEM h+TT,_D%#*V,TE]V o~H#*V,TE]V",
  "aEXT[DE]&ABIC-*DIC_DIGIT_Z,O bc;E bcTWO bdH~E bcFOUR bdIVE bcSIX bdEV[ bcE( bcN*E",
  "a&ABIC_+TT,<HE[#DOT_BELOW oDAD#DOT_BELOW oGHA*#DOT_BELOW hSIGN<*DHI_AMP,S.D tPOSTPOSI^;_M[",
  "h+TT,_HEH#*V,TE]V aSYRIAC_[]OF_P&AGRAPH hSUPR%*E&_FULL<TOP jBL*E&_FULL<TOP jPR%*E&_COL;",
  "jBL*E&_COL; hHORIZ;T%_COL; hCOL;<KEWE]+FT uR( hSUPR%*E&_COL;<KEWE]+FT jBL*E&_COL;<KEWE]R(",
  "hC;TRAC^; hH&K+._OBELUS qMETOBELUS qAST,ISCUS 70F=hABB~VIA^;_M&K h+TT,_%APH oSUP,SCRIPT_%APH",
  "oBETH oGAM% t_G&SHUNI oD%ATH pOT+SS_D%ATH_RISH oHE oWAW oZA* oHETH oTETH s_G&SHUNI oYUDH s_HE",
  "oKAPH oLAMADH oMIM oNUN oSEMKATH oF*%<EMKATH oE oPE o~V,SE]PE oSADHE oQAPH oRISH oSH* oTAW",
  "oP,SI._BHETH wGHAM% wDH%ATH hPTHAHA? oBELOW oDOTTED hZQAPHA? oBELOW oDOTTED hRBASA? nBELOW",
  "hDOTTE]ZLAMA_HORIZ;T% u.GUL& hHBASA? nBELOW m-ESASA_DOTTED hESASA? nBELOW hRWAHA hFEM**E_DOT",
  "hQUSHSHAYA hRUKKAKHA hTWO_V,^C%_DOTS? zBELOW iH~E_DOTS? sBELOW hOBLIQUE_L*E? uBELOW hMUSIC",
  "hB&~KH 74D=h+TT,<OGDI._ZHA* wKHAPH wFE a&ABIC_+TT,_BEH#TH~E_DOTS_HORIZ;T%LY_BELOW",
  "xDOT_BELOW_.]TH~E_DOTS? xTH~E_DOTS_PO*T*G_UP|_BELOW ce_.]TWO_DOTS? yWO_DOTS_BELOW_.]DOT?",
  "x*V,TED<M%L_V_BELOW xSM%L_V oHAH#TWO_DOTS? yH~E_DOTS_PO*T*G_UP|_BELOW",
  "oD%#TWO_DOTS_V,^C%LY_BELOW_.D<M%L_TAH x*V,TED<M%L_V_BELOW o~H#STROKE oSE[#FOUR_DOTS?",
  "oA*#TWO_DOTS? yH~E_DOTS_PO*T*G_DOWN|? yWO_DOTS_V,^C%LY? oFEH#TWO_DOTS_BELOW",
  "yH~E_DOTS_PO*T*G_UP|_BELOW oKEHEH#DOT? zTH~E_DOTS? bkPO*T*G_UP|_BELOW oMEEM#DOT? bcBELOW",
  "oNO;#TWO_DOTS_BELOW ySM%L_TAH beV oLAM#B& o~H#TWO_DOTS_V,^C%LY? xHAMZA? oSE[#TWO_DOTS_V,^C%LY?",
  "oHAH#SM%L_&ABIC_+TT,_TAH_BELOW bv.]TWO_DOTS oSE[#SM%L_&ABIC_+TT,_TAH_.]TWO_DOTS",
  "o~H#SM%L_&ABIC_+TT,_TAH_.]TWO_DOTS oHAH#SM%L_&ABIC_+TT,_TAH? o%EF#EXT[DE]&ABIC-*DIC_DIGIT_TWO?",
  "cbH~E? oF&SI_YEH#EXT[DE]&ABIC-*DIC_DIGIT_TWO? cgH~E? cfFOUR_BELOW",
  "oWAW#EXT[DE]&ABIC-*DIC_DIGIT_TWO? caH~E? oYEH_B&~E#EXT[DE]&ABIC-*DIC_DIGIT_TWO? chH~E?",
  "oHAH#EXT[DE]&ABIC-*DIC_DIGIT_FOUR_BELOW oSE[#EXT[DE]&ABIC-*DIC_DIGIT_FOUR? y*V,TE]V",
  "oKAF#TWO_DOTS? aTHA.A_+TT,_HAA oSHAVIY.I oNO;U oRAA oBAA oLHAVIY.I oKAAFU o%IFU oVAAVU oMEEMU",
  "oFAAFU oDHA%U oTHAA oLAAMU oGAAFU pNAVIY.I oSE[U oDAVIY.I oZAVIY.I oTAVIY.I oYAA oPAVIY.I",
  "oJAVIY.I oCHAVIY.I oTTAA oHHAA oKHAA oTHA%U oZAA oSHE[U pAADHU oDAADHU oTO oZO oA*U oGHA*U",
  "oQAAFU oWAAVU hABAFILI iABAAFILI hIBIFILI hEEBEEFILI hUBUFILI hOOBOOFILI hEBEFILI iYBEYFILI",
  "hOBOFILI iABOAFILI hSUKUN h+TT,_NAA 7C0=aNKO_DIGIT_Z,O k;E kTWO lH~E kFOUR lIVE kSIX lEV[ kE(",
  "kN*E e+TT,_A lEE lI lE lU lOO m lDAGBAS*NA lN lBA lPA lTA lJA lCHA lDA lRA mRA lSA lGBA lFA",
  "lKA lLA lNA_WOLOSO lMA lNYA mA lHA lWA lYA lNYA_WOLOSO lJ;A_JA qCHA qRA eCOMB**G<HORT_HIGH_T;E",
  "uLOW_T;E uRIS*G_T;E oL;G_DESC[D*G_T;E tHIGH_T;E tLOW_T;E tRIS*G_T;E oNAS%IZA^;_M&K oDOUB+_DOT?",
  "eHIGH_T;E_APOSTROPHE eLOW_T;E_APOSTROPHE eSYMBOL_OO_D[N[ lGBAKURUN[ eCOMMA eEXCLAMA^;_M&K",
  "eLAJ.Y%. 7FD=eD.TAY%. fOROME<IGN eTAM.<IGN aSAM&IT._+TT,_%AF rBIT rGAM. rD%AT rIY rBAA rZ[ rIT",
  "r^T rYUT rKAAF rLABAT rMIM rNUN rS*GAAT r* rFI rTSAADIY rQUF rRISH rSH. rTAAF kM&K_* r-%AF",
  "pOCCLUSI; pDAGESH lODIFI,_+TT,_EP[THE^C_YUT l&K_EP[THE^C_YUT kVOWEL<IGN_L;G_E vE vOV,L;G_AA",
  "vL;G_AA vAA vOV,L;G_A vL;G_A vA kMODIFI,_+TT,<HORT_A kVOWEL<IGN<HORT_A vL;G_U vU",
  "kMODIFI,_+TT,_I kVOWEL<IGN_L;G_I vI vO vSUKUN kM&K_NEQUDAA 830=kPUNCTUA^;_NEQUDAA wAFSAAQ",
  "xNGED wBAU wATMAAU wSHIYYA%AA kABB~VIA^;_M&K kPUNCTUA^;_MELODIC_QITSA wZIQAA wQITSA wZAEF",
  "wTURU w&KA.U wSOF_MASHFAAT w.NAAU 840=aM.DAIC_+TT,_H%QA pAB qG qD qH pUSH[NA pAZ pIT pATT qKSA",
  "r qL qM qN qS p* pAP qSZ qQ qR qSH qT pDUSH[NA pKAD pA* iAFFRICA^;_M&K iVOC%IZA^;_M&K",
  "iGEM*A^;_M&K 85E=iPUNCTUA^; 860=aSYRIAC_+TT,_M%AY%AM_NGA yJA yNYA yTTA yNNA baNA yBHA yRA yLLA",
  "baLA ySSA 870=a&ABIC_+TT,_%EF#ATTACHE]FATHA bhTOP_R(_FATHA yR(_MIDD+<TROKE y+FT_MIDD+<TROKE",
  "yATTACHE]KASRA bhBOTTOM_R(_KASRA bhROUN]DOT? bi(_ROUN]DOT bh+FT_ROUN]DOT bhROUN]DOT_BELOW",
  "yDOT? yATTACHE]TOP_R(_FATHA_.]DOT? yR(_MIDD+<TROKE_.]DOT? yATTACHE]BOTTOM_R(_KASRA_.]DOT?",
  "bhTOP_R(_FATHA_.]+FT_R*G yR(_MIDD+<TROKE_.]+FT_R*G yATTACHE]BOTTOM_R(_KASRA_.]+FT_R*G",
  "bhR(_HAMZA bh+FT_HAMZA hTATWEEL#OV,STRUCK_HAMZA bfWAW uTWO_DOTS_BELOW h+TT,_TH*_YEH",
  "hBASEL*E_ROUN]DOT hRAISE]ROUN]DOT h+TT,_NO;#*V,TED<M%L_V oHAH#*V,TED<M%L_V_BELOW",
  "oTAH#DOT_BELOW xTH~E_DOTS_BELOW oKEHEH#TWO_DOTS_V,^C%LY_BELOW hV,^C%_TAIL 890=hPOUN]M&K?",
  "iIAST~_M&K? 898=hSM%L_HIGH_WOR]%-JUZ nLOW_WOR]ISHMAAM xMA%A wTASHEEL hMADDA_WAAJIB",
  "hSUP,SCRIPT_%EF_MOKHASSAS hDOUB+]MADDA hH%F_MADDA_OV,_MADDA h+TT,_BEH#SM%L_V_BELOW xHAMZA?",
  "oJEEM#TWO_DOTS? oTAH#TWO_DOTS? oFEH#DOT_BELOW_.]TH~E_DOTS? oQAF#DOT_BELOW oLAM#DOUB+_B&",
  "oMEEM#TH~E_DOTS? oYEH#TWO_DOTS_BELOW_.]HAMZA? bqDOT? o~H#LOOP oWAW#DOT_WITH* oROH*GYA_YEH",
  "oLOW_%EF oD%#TH~E_DOTS_BELOW oSAD#TH~E_DOTS_BELOW oGAF#*V,TED<TROKE oSTRA(_WAW oZA*#*V,TE]V?",
  "oA*#TH~E_DOTS_BELOW oKAF#DOT_BELOW oQAF#DOT_BELOW_.]NO_DOTS? oBEH#SM%L_MEEM? oPEH#SM%L_MEEM?",
  "oTEH#SM%L_TEH? o~H#SM%L_NO;? oYEH#TWO_DOTS_BELOW_.D<M%L_NO;? oAFRIC._FEH wQAF wNO; oPEH#SM%L_V",
  "oTEH#SM%L_V pTEH#SM%L_V pCHEH#SM%L_V oKEHEH#SM%L_V oGHA*#TH~E_DOTS? oAFRIC._QAF#TH~E_DOTS?",
  "oJEEM#TH~E_DOTS? bjBELOW oLAM#SM%L_&ABIC_+TT,_TAH? oGRAF hSM%L_F&SI_YEH nHIGH_F&SI_YEH",
  "sYEH_B&~E#TWO_DOTS_BELOW sWORD<AH sZAH hL&GE_ROUN]DOT? xBELOW hSUKUN_BELOW hL&GE_CIRC+_BELOW",
  "nROUN]DOT_*SIDE_CIRC+_BELOW hSM%L_LOW_WAW nHIGH_WOR]&-RUB sSAD sA* sQAF sNO;#KASRA",
  "nLOW_NO;#KASRA nHIGH_WOR]ATH-TH%ATHA yS-SAJDA yN-NISF xSAKTA xQIF xWAQFA sFOOTNOTE_M&K,",
  "sSIGN<AFHA hDISPUTE][]OF_AYAH hTURNE]DAMMA_BELOW hCURLY_FATHA nDAMMA nKASRA nFATHAT. nDAMMAT.",
  "nKASRAT. hT;E_;E_DOT? mTWO_DOTS? mLOOP? m;E_DOT_BELOW mTWO_DOTS_BELOW mLOOP_BELOW hOP[_FATHAT.",
  "mDAMMAT. mKASRAT. hSM%L_HIGH_WAW hFATHA#R*G sDOT? hKASRA#DOT_BELOW h+FT:HEAD? hR(:HEAD?",
  "h+FT:HEA]BELOW hR(:HEA]BELOW hDOUB+_R(:HEAD? bj#DOT hR(:HEAD?#DOT hDAMMA#DOT",
  "hM&K<IDEWAYS_NO;_GHUNNA aDEV.AG&I<IGN_*V,TE]C.DRAB*DU qC.DRAB*DU q.USV&A qVIS&GA l+TT,<HORT_A",
  "sA tA sI tI sU tU sVOC%IC_R baL sC.DRA_E sSHORT_E sE sAI sC.DRA_O sSHORT_O sO sAU sKA tHA sGA",
  "tHA sNGA sCA tHA sJA tHA sNYA sTTA uHA sDDA uHA sNNA sTA tHA sDA tHA sNA tNNA sPA tHA sBA tHA",
  "sMA sYA sRA tRA sLA tLA uLA sVA sSHA tSA tA sHA lVOWEL<IGN_OE xOE lSIGN_NUKTA qAVAGRAHA",
  "lVOWEL<IGN_AA wI xI wU xU wVOC%IC_R bfR wC.DRA_E wSHORT_E wE wAI wC.DRA_O wSHORT_O wO wAU",
  "lSIGN_VIRAMA lVOWEL<IGN_PRISHTHAMATRA_E wAW lOM lST~SS<IGN_UDATTA x.UDATTA lGRAVE_ACC[T",
  "lACUTE_ACC[T lVOWEL<IGN_C.DRA_L;G_E wUE xUE l+TT,_QA sKHHA sGHHA sZA sDDDHA sRHA sFA sYYA",
  "sVOC%IC_RR baLL lVOWEL<IGN_VOC%IC_L bfL lD.DA mOUB+_D.DA mIGIT_Z,O r;E rTWO sH~E rFOUR sIVE",
  "rSIX sEV[ rE( rN*E lABB~VIA^;<IGN lSIGN_HIGH<PAC*G_DOT l+TT,_C.DRA_A sOE tOE sAW sUE tUE",
  "sM&W&I_DDA sZHA sHEAVY_YA sGGA sJJA sGLOTT%<TOP sDDDA sBBA aB[G%I_.JI iSIGN_C.DRAB*DU n.USV&A",
  "nVIS&GA 985=i+TT,_A qA pI qI pU qU pVOC%IC_R xL 98F=pE pAI 993=pO pAU pKA qHA pGA qHA pNGA pCA",
  "qHA pJA qHA pNYA pTTA rHA pDDA rHA pNNA pTA qHA pDA qHA pNA 9AA=pPA qHA pBA qHA pMA pYA pRA",
  "9B2=pLA 9B6=pSHA qSA qA pHA 9BC=iSIGN_NUKTA nAVAGRAHA iVOWEL<IGN_AA tI uI tU uU tVOC%IC_R bcR",
  "9C7=tE tAI 9CB=tO tAU iSIGN_VIRAMA i+TT,_KH.DA_TA 9D7=iAU_+NGTH_M&K 9DC=i+TT,_RRA qHA 9DF=pYYA",
  "pVOC%IC_RR xLL iVOWEL<IGN_VOC%IC_L bcL 9E6=iDIGIT_Z,O o;E oTWO pH~E oFOUR pIVE oSIX pEV[ oE(",
  "oN*E i+TT,_RA#MIDD+_DIAG;% xLOW,_DIAG;% iRUPEE_M&K oSIGN iCURR[CY_NUM,ATOR_;E bbTWO bcH~E",
  "bbFOUR bb;E_+SS_TH._THE_D[OM*ATOR rD[OM*ATOR<IXTE[ iISSH& iG.DA_M&K i+TT,_VEDIC_.USV&A",
  "iABB~VIA^;<IGN iS.DHI_M&K A01=aGURMUKHI<IGN_ADAK_B*DI oB*DI oVIS&GA A05=j+TT,_A rA qI rI qU rU",
  "A0F=qEE qAI A13=qOO qAU qKA rHA qGA rHA qNGA qCA rHA qJA rHA qNYA qTTA sHA qDDA sHA qNNA qTA",
  "rHA qDA rHA qNA A2A=qPA rHA qBA rHA qMA qYA qRA A32=qLA rLA A35=qVA qSHA A38=rA qHA",
  "A3C=jSIGN_NUKTA A3E=jVOWEL<IGN_AA uI vI uU vU A47=uEE uAI A4B=uOO uAU jSIGN_VIRAMA A51=oUDAAT",
  "A59=j+TT,_KHHA qGHHA qZA qRRA A5E=qFA A66=jDIGIT_Z,O p;E pTWO qH~E pFOUR qIVE pSIX qEV[ pE(",
  "pN*E j^PPI jADDAK jIRI jURA jEK_;K& jSIGN_YAKASH jABB~VIA^;<IGN A81=cJ&A^<IGN_C.DRAB*DU",
  "o.USV&A oVIS&GA A85=j+TT,_A rA qI rI qU rU qVOC%IC_R yL jVOWEL_C.DRA_E A8F=j+TT,_E qAI",
  "jVOWEL_C.DRA_O A93=j+TT,_O qAU qKA rHA qGA rHA qNGA qCA rHA qJA rHA qNYA qTTA sHA qDDA sHA",
  "qNNA qTA rHA qDA rHA qNA AAA=qPA rHA qBA rHA qMA qYA qRA AB2=qLA rLA AB5=qVA qSHA rSA rA qHA",
  "ABC=jSIGN_NUKTA oAVAGRAHA jVOWEL<IGN_AA uI vI uU vU uVOC%IC_R bdR uC.DRA_E AC7=uE uAI uC.DRA_O",
  "ACB=uO uAU jSIGN_VIRAMA AD0=jOM AE0=j+TT,_VOC%IC_RR yLL jVOWEL<IGN_VOC%IC_L bdL AE6=jDIGIT_Z,O",
  "p;E pTWO qH~E pFOUR qIVE pSIX qEV[ pE( pN*E jABB~VIA^;<IGN jRUPEE<IGN AF9=j+TT,_ZHA jSIGN<UKUN",
  "pHADDA oMADDAH oTH~E-DOT_NUKTA? oCIRC+_NUKTA? oTWO-CIRC+_NUKTA? B01=aORIYA<IGN_C.DRAB*DU",
  "l.USV&A lVIS&GA B05=g+TT,_A oA nI oI nU oU nVOC%IC_R vL B0F=nE nAI B13=nO nAU nKA oHA nGA oHA",
  "nNGA nCA oHA nJA oHA nNYA nTTA pHA nDDA pHA nNNA nTA oHA nDA oHA nNA B2A=nPA oHA nBA oHA nMA",
  "nYA nRA B32=nLA oLA B35=nVA nSHA oSA oA nHA B3C=gSIGN_NUKTA lAVAGRAHA gVOWEL<IGN_AA rI sI rU",
  "sU rVOC%IC_R baR B47=rE rAI B4B=rO rAU gSIGN_VIRAMA B55=lOV,L*E gAI_+NGTH_M&K hU_+NGTH_M&K",
  "B5C=g+TT,_RRA oHA B5F=nYYA nVOC%IC_RR vLL gVOWEL<IGN_VOC%IC_L baL B66=gDIGIT_Z,O m;E mTWO nH~E",
  "mFOUR nIVE mSIX nEV[ mE( mN*E gISSH& g+TT,_WA gFRAC^;_;E_QU&T, tH%F pTH~E_QU&T,S p;E<IXTE[TH",
  "tE(H pTH~E<IXTE[THS B82=aTAMIL<IGN_.USV&A lVIS&GA B85=g+TT,_A oA nI oI nU oU B8E=nE oE nAI",
  "B92=nO oO nAU nKA B99=nNGA nCA B9C=nJA B9E=nNYA nTTA BA3=nNNA nTA BA8=nNA oNNA nPA BAE=nMA nYA",
  "nRA oRA nLA oLA pLA nVA nSHA oSA oA nHA BBE=gVOWEL<IGN_AA rI sI rU sU BC6=rE sE rAI BCA=rO sO",
  "rAU gSIGN_VIRAMA BD0=gOM BD7=gAU_+NGTH_M&K BE6=gDIGIT_Z,O m;E mTWO nH~E mFOUR nIVE mSIX nEV[",
  "mE( mN*E gNUMB,_T[ n;E_HUND~D rTHOUS.D gDAY<IGN gM;TH<IGN gYE&<IGN gDEBIT<IGN gC~DIT<IGN",
  "gAS?<IGN gRUPEE<IGN gNUMB,<IGN C00=bELUGU<IGN_COMB**G_C.DRAB*DU? n.DRAB*DU m.USV&A mVIS&GA",
  "mCOMB**G_.USV&A? h+TT,_A pA oI pI oU pU oVOC%IC_R wL C0E=oE pE oAI C12=oO pO oAU oKA pHA oGA",
  "pHA oNGA oCA pHA oJA pHA oNYA oTTA qHA oDDA qHA oNNA oTA pHA oDA pHA oNA C2A=oPA pHA oBA pHA",
  "oMA oYA oRA pRA oLA pLA qLA oVA oSHA pSA pA oHA C3C=hSIGN_NUKTA mAVAGRAHA hVOWEL<IGN_AA sI tI",
  "sU tU sVOC%IC_R bbR C46=sE tE sAI C4A=sO tO sAU hSIGN_VIRAMA C55=h+NGTH_M&K hAI_+NGTH_M&K",
  "C58=h+TT,_TSA oDZA oRRRA C5D=oNAKA&A_POLLU C60=oVOC%IC_RR wLL hVOWEL<IGN_VOC%IC_L bbL",
  "C66=hDIGIT_Z,O n;E nTWO oH~E nFOUR oIVE nSIX oEV[ nE( nN*E C77=hSIGN<IDDHAM",
  "hFRAC^;_DIGIT_Z,O_FOR_OD]POW,S_OF_FOUR w;E_FOR_OD]POW,S_OF_FOUR wTWO_FOR_OD]POW,S_OF_FOUR",
  "xH~E_FOR_OD]POW,S_OF_FOUR w;E_FOR_EV[_POW,S_OF_FOUR wTWO_FOR_EV[_POW,S_OF_FOUR",
  "xH~E_FOR_EV[_POW,S_OF_FOUR hSIGN_TUUMU aK.NADA<IGN<PAC*G_C.DRAB*DU nC.DRAB*DU n.USV&A nVIS&GA",
  "nSIDDHAM i+TT,_A qA pI qI pU qU pVOC%IC_R xL C8E=pE qE pAI C92=pO qO pAU pKA qHA pGA qHA pNGA",
  "pCA qHA pJA qHA pNYA pTTA rHA pDDA rHA pNNA pTA qHA pDA qHA pNA CAA=pPA qHA pBA qHA pMA pYA",
  "pRA qRA pLA qLA CB5=pVA pSHA qSA qA pHA CBC=iSIGN_NUKTA nAVAGRAHA iVOWEL<IGN_AA tI uI tU uU",
  "tVOC%IC_R bcR CC6=tE uE tAI CCA=tO uO tAU iSIGN_VIRAMA CD5=i+NGTH_M&K iAI_+NGTH_M&K",
  "CDD=i+TT,_NAKA&A_POLLU pFA CE0=pVOC%IC_RR xLL iVOWEL<IGN_VOC%IC_L bcL CE6=iDIGIT_Z,O o;E oTWO",
  "pH~E oFOUR pIVE oSIX pEV[ oE( oN*E CF1=iSIGN_JIHVAMULIYA nUPADHM.IYA",
  "D00=aM%AY%AM<IGN_COMB**G_.USV&A? q.DRAB*DU p.USV&A pVIS&GA k+TT,_VEDIC_.USV&A rA sA rI sI rU",
  "sU rVOC%IC_R zL D0E=rE sE rAI D12=rO sO rAU rKA sHA rGA sHA rNGA rCA sHA rJA sHA rNYA rTTA tHA",
  "rDDA tHA rNNA rTA sHA rDA sHA rNA sNNA rPA sHA rBA sHA rMA rYA rRA sRA rLA sLA tLA rVA rSHA",
  "sSA sA rHA rTTTA kSIGN_V,^C%_B&_VIRAMA pCIRCUL&_VIRAMA pAVAGRAHA kVOWEL<IGN_AA vI wI vU wU",
  "vVOC%IC_R beR D46=vE wE vAI D4A=vO wO vAU kSIGN_VIRAMA k+TT,_DOT_~PH kSIGN_P&A",
  "D54=k+TT,_CHILLU_M yY yLLL kAU_+NGTH_M&K kFRAC^;_;E_;E-HUND~D-.D-SIX^ETH xFOR^ETH",
  "tTH~E_E(IETHS t;E_TW[^ETH y[TH tTH~E_TW[^ETHS t;E_FIFTH k+TT,_&CHAIC_II rVOC%IC_RR zLL",
  "kVOWEL<IGN_VOC%IC_L beL D66=kDIGIT_Z,O q;E qTWO rH~E qFOUR rIVE qSIX rEV[ qE( qN*E kNUMB,_T[",
  "r;E_HUND~D vTHOUS.D kFRAC^;_;E_QU&T, xH%F tTH~E_QU&T,S t;E<IXTE[TH xE(H tTH~E<IXTE[THS",
  "kDATE_M&K k+TT,_CHILLU_NN z yRR yL zL yK D81=aS*H%A<IGN_C.DRAB*DU n.USV&AYA nVIS&GAYA",
  "D85=i+TT,_AY.NA qAY.NA qEY.NA rEY.NA pIY.NA qIY.NA pUY.NA qUY.NA pIRUY.NA sUY.NA qLUY.NA",
  "sUY.NA pEY.NA qEY.NA pAIY.NA pOY.NA qOY.NA pAUY.NA D9A=qLPAPRA.A_KAY.NA pMAHAAPRA.A_KAY.NA",
  "p%PAPRA.A_GAY.NA pMAHAAPRA.A_GAY.NA pK.TAJA_NAASIKYAYA pS.YAKA_GAY.NA p%PAPRA.A_CAY.NA",
  "pMAHAAPRA.A_CAY.NA p%PAPRA.A_JAY.NA pMAHAAPRA.A_JAY.NA pTA%UJA_NAASIKYAYA xS.YOOGA_NAAKSIKYAYA",
  "pS.YAKA_JAY.NA p%PAPRA.A_TTAY.NA pMAHAAPRA.A_TTAY.NA p%PAPRA.A_DDAY.NA pMAHAAPRA.A_DDAY.NA",
  "qUURDHAJA_NAY.NA pS.YAKA_DDAY.NA p%PAPRA.A_TAY.NA pMAHAAPRA.A_TAY.NA p%PAPRA.A_DAY.NA",
  "pMAHAAPRA.A_DAY.NA pD.TAJA_NAY.NA DB3=pS.YAKA_DAY.NA p%PAPRA.A_PAY.NA pMAHAAPRA.A_PAY.NA",
  "p%PAPRA.A_BAY.NA pMAHAAPRA.A_BAY.NA rY.NA pAMBA_BAY.NA pYAY.NA pRAY.NA DBD=pD.TAJA_LAY.NA",
  "DC0=pVAY.NA pTA%UJA<AY.NA pMUURDHAJA<AY.NA pD.TAJA<AY.NA pHAY.NA pMUURDHAJA_LAY.NA pFAY.NA",
  "DCA=iSIGN_%-LAKUNA DCF=iVOWEL<IGN_AELA-PILLA tKET^_AEDA-PILLA tDIGA_AEDA-PILLA tKET^_IS-PILLA",
  "tDIGA_IS-PILLA tKET^_PAA-PILLA DD6=tDIGA_PAA-PILLA DD8=tGAETTA-PILLA tKOMBUVA tDIGA_KOMBUVA",
  "tKOMBU_DEKA yVA_HAA_AELA-PILLA bfDIGA_AELA-PILLA bfGAY.UKITTA tGAY.UKITTA DE6=iLITH_DIGIT_Z,O",
  "t;E tTWO uH~E tFOUR uIVE tSIX uEV[ tE( tN*E DF2=iVOWEL<IGN_DIGA_GAETTA-PILLA baY.UKITTA",
  "iPUNCTUA^;_KUNDD%IYA E01=aTHAI_CH&ACT,_KO_KAI qHO_KHAI vUAT vWAI v; tRAKH.G pNGO_NGU pCHO_CH.",
  "v*G v.G pSO<O pCHO_CHOE pYO_Y*G pDO_CHADA pTO_PATAK qHO_TH. tN.GM;THO tPHUTHAO pNO_N[ pDO_DEK",
  "pTO_TAO qHO_THUNG vAH. v;G pNO_NU pBO_BAIMAI pPO_PLA qHO_PHUNG pFO_FA pPHO_PH. pFO_F.",
  "pPHO<AMPHAO pMO_MA pYO_YAK pRO_RUA qU pLO_L*G qU pWO_WA[ pSO<%A sRUSI sSUA pHO_HIP pLO_CHULA",
  "pO_.G pHO_NOKHUK pPAIY.NOI pS&A_A pMAI_H.-AKAT pS&A_AA vM uI vI uUE wE v vU pPH*THU",
  "E3F=gURR[CY<YMBOL_BAHT gH&ACT,<&A_E uAE uO uAI_MAIMU. bb%AI pLAKKH.GYAO pMAIYAMOK sTAIKHU s_EK",
  "tTHO uRI tCHATTAWA pTH.THAKHAT pNIKHAHIT pYAMAKK. pF;GM. fDIGIT_Z,O l;E lTWO mH~E lFOUR mIVE",
  "lSIX mEV[ lE( lN*E fCH&ACT,_.GKH.KHU pKHOMUT E81=aLAO_+TT,_KO mHO<UNG E84=pTAM E86=lP%I_GHA",
  "lNGO lCO lP%I_CHA lSO_TAM E8C=lP%I_JHA lNYO lP%I_NYA qTTA sHA qDDA sHA qNNA lDO lTO mHO<UNG",
  "pTAM lP%I_DHA lNO lBO lPO mHO<UNG lFO_TAM lPHO_TAM lFO<UNG lP%I_BHA lMO lYO lLO_L*G EA5=pOOT",
  "EA7=lWO lS.SKRIT<HA vSA mO<UNG lHO<UNG lP%I_LLA lO lHO_TAM eELLIPSIS eVOWEL<IGN_A pMAI_K. pAA",
  "qM pI qI pY qY pU qU eSIGN_P%I_VIRAMA eVOWEL<IGN_MAI_K; eSEMIVOWEL<IGN_LO tNYO",
  "EC0=eVOWEL<IGN_E qI pO pAY qI EC6=eKO_LA EC8=eT;E_MAI_EK nTHO oI nCATAWA eC.CELLA^;_M&K",
  "eNIGGAHITA ED0=eDIGIT_Z,O k;E kTWO lH~E kFOUR lIVE kSIX lEV[ kE( kN*E EDC=eHO_NO hMO",
  "e+TT,_KHMU_GO qNYO F00=a^BET.<YLLAB+_OM iM&K_GT,_YIG_MGO_TRUNCATE]A ba-UM_RNAM_BCA]MA",
  "beGT,_TSHEG_MA n*I^%_YIG_MGO_MDUN_MA nCLOS*G_YIG_MGO<GAB_MA o&ET_YIG_MGO_PHUR<HA]MA",
  "nYIG_MGO_TSHEG<HA]MA nSBRUL<HAD nBSKUR_YIG_MGO oKA-<HOG_YIG_MGO n*T,SYLLABIC_TSHEG",
  "nDELIMIT,_TSHEG_BST& nSHAD nNYIS<HAD nTSHEG<HAD nNYIS_TSHEG<HAD nR*_CH[<PUNGS<HAD",
  "oGYA_GRAM<HAD nC&ET_-DZU]RTAGS_ME_L;G_C. nGT,_TSHEG iLOGOTYPE<IGN_CHA]RTAGS wLHAG_RTAGS",
  "iASTROLOGIC%<IGN<GRA_GC._-CH&_RTAGS ba-KHYU]PA baSD;G_TSHUGS iSIGN_RDEL_DK&_GCIG yNYIS ySUM",
  "sNAG_GCIG xNYIS sDK&_RDEL_NAG iDIGIT_Z,O o;E oTWO pH~E oFOUR pIVE oSIX pEV[ oE( oN*E oH%F_;E",
  "tTWO uH~E tFOUR uIVE tSIX uEV[ tE( tN*E tZ,O iM&K_BSDUS_RTAGS nNGAS_BZUNG_NYI_ZLA",
  "nC&ET_-DZU]RTAGS_BZHI_MIG_C. nNGAS_BZUNG<GOR_RTAGS nCHE_MGO nTSA_-PHRU nGUG_RTAGS_GY; zAS",
  "n.G_KH.G_GY; zAS iSIGN_Y&_TSHES nM&_TSHES i+TT,_KA qHA pGA qHA pNGA pCA qHA pJA F49=pNYA pTTA",
  "rHA pDDA rHA pNNA pTA qHA pDA qHA pNA pPA qHA pBA qHA pMA pTSA rHA pDZA rHA pWA pZHA qA p-A",
  "pYA pRA pLA pSHA qSA qA pHA pA pKSSA pFIXED-FORM_RA pKKA pRRA F71=iVOWEL<IGN_AA tI uI tU uU",
  "tVOC%IC_R bcR bbL bcL tE uE tO uO iSIGN_RJES<U_NGA_RO oNAM_BCAD iVOWEL<IGN_~V,SE]I bdI",
  "iSIGN_NYI_ZLA_NAA_DA nSNA_LD. iM&K_H%.TA nP%UTA iSIGN_LCI_RTAGS nY.G_RTAGS nLCE_TSA_C.",
  "nMCHU_C. nGRU_C._RGY*GS rME]RGY*GS n*V,TE]MCHU_C. jUBJO*ED<IGN_LCE_TSA_C. xMCHU_C.",
  "x*V,TE]MCHU_C. s+TT,_KA baHA zGA baHA zNGA zCA baHA zJA F99=zNYA zTTA bbHA zDDA bbHA zNNA zTA",
  "baHA zDA baHA zNA zPA baHA zBA baHA zMA zTSA bbHA zDZA bbHA zWA zZHA baA z-A zYA zRA zLA zSHA",
  "baSA baA zHA zA zKSSA zFIXED-FORM_WA bkYA bkRA FBE=iKU_RU_KHA r_BZHI_MIG_C.",
  "iC.^LLA^;<IGN_HEAVY_BEAT baL(_BEAT baC.G_TE-U baSBUB_-CH% iSYMBOL_DRIL_BU pRDO_RJE pPADMA_GD.",
  "pRDO_RJE_RGYA_GRAM pPHUR_PA pNOR_BU v_NYIS_-KHYIL wGSUM_-KHYIL wBZHI_-KHYIL",
  "FCE=jIGN_RDEL_NAG_RDEL_DK& wGSUM iM&K_BSKA-<HOG_GI_MGO_RGY. nMNYAM_YIG_GI_MGO_RGY. nNYIS_TSHEG",
  "n*I^%_BRDA_RNY*G_YIG_MGO_MDUN_MA nCLOS*G_BRDA_RNY*G_YIG_MGO<GAB_MA aR(-FAC*G<VAS^<IGN",
  "a+FT-FAC*G<VAS^<IGN aR(-FAC*G<VAS^<IGN#DOTS a+FT-FAC*G<VAS^<IGN#DOTS",
  "a^BET._M&K_+AD*G_MCH._RTAGS nTRAIL*G_MCH._RTAGS 1000=aMY.M&_+TT,_KA qHA pGA qHA pNGA pCA qHA",
  "pJA qHA pNYA qNYA pTTA rHA pDDA rHA pNNA pTA qHA pDA qHA pNA pPA qHA pBA qHA pMA pYA pRA pLA",
  "pWA pSA pHA pLLA pA pSH._A pI qI pU qU pE pM;_E pO pAU iVOWEL<IGN_T%L_AA tAA tI uI tU uU tE",
  "tAI tM;_II xO tE? iSIGN_.USV&A nDOT_BELOW nVIS&GA pRAMA nASAT iC;S;.T<IGN_MEDI%_YA beRA beWA",
  "beHA i+TT,_G~AT<A iDIGIT_Z,O o;E oTWO pH~E oFOUR pIVE oSIX pEV[ oE( oN*E iSIGN_LITT+<EC^;",
  "nSEC^; jYMBOL_LOCA^VE pCOMP+TED pAFO~M[^;ED pG[I^VE i+TT,<HA qSA pVOC%IC_R yR xL yL",
  "iVOWEL<IGN_VOC%IC_R bcR bbL bcL i+TT,_M;_NGA tJHA tBBA vE iC;S;.T<IGN_M;_MEDI%_NA biMA biLA",
  "i+TT,<GAW_K&[<HA iVOWEL<IGN<GAW_K&[_EU iT;E_M&K<GAW_K&[_HATHI bdKE_PHO",
  "i+TT,_WEST,N_PWO_K&[_THA bhPWA iVOWEL<IGN_WEST,N_PWO_K&[_EU blUE iSIGN_WEST,N_PWO_K&[_T;E-1",
  "bk2 bk3 bk4 bk5 i+TT,_EAST,N_PWO_K&[_NNA bhYWA bhGHWA iVOWEL<IGN_GEBA_K&[_I tKAYAH_OE zU zEE",
  "i+TT,<H._KA vHA uGA uCA uZA uNYA uDA uNA uPHA uFA uBA uTHA uHA iC;S;.T<IGN<H._MEDI%_WA",
  "iVOWEL<IGN<H._AA yE z? yF*%_Y iSIGN<H._T;E-2 x3 x5 x6 sCOUNCIL_T;E-2 bf3 baEMPHA^C_T;E",
  "i+TT,_RUMAI_P%AUNG_FA iSIGN_RUMAI_P%AUNG_T;E-5 jH._DIGIT_Z,O t;E tTWO uH~E tFOUR uIVE tSIX",
  "uEV[ tE( tN*E jIGN_KHAM^_T;E-1 z3 iVOWEL<IGN_AIT;_A baI iSYMBOL<H._;E uEXCLAMA^; aGEORGI._$.",
  "yB. yG. yD; y[ yV* yZ[ yT. y* yK. yLAS yM. yN& y; yP& yZH& yRAE yS. yT& yUN yPH& yKH& yGH. yQ&",
  "ySH* yCH* z. yJIL yCIL zH& yX. yJH. yHAE zE zIE yWE yH& zOE 10C7=yYN 10CD=yA[ 10D0=j+TT,_. qB.",
  "qG. qD; q[ qV* qZ[ qT. q* qK. qLAS qM. qN& q; qP& qZH& qRAE qS. qT& qUN qPH& qKH& qGH. qQ&",
  "qSH* qCH* r. qJIL qCIL rH& qX. qJH. qHAE rE rIE qWE qH& rOE qFI qYN qELIFI qTURNE]G. qA*",
  "jP&AGRAPH<EP&ATOR aMODIFI,_+TT,_GEORGI._N& aGEORGI._+TT,_A[ qH&D<IGN qLABI%<IGN",
  "aH.GUL_CHOSE;G_KIYEOK qSS.GKIYEOK qNIEUN q^KEUT qSS.G^KEUT qRIEUL qMIEUM qPIEUP qSS.GPIEUP",
  "rIOS rS.GSIOS qIEUNG qCIEUC qSS.GCIEUC qCHIEUCH qKHIEUKH qTHIEUTH qPHIEUPH qHIEUH",
  "qNIEUN-KIYEOK qSS.GNIEUN qNIEUN-^KEUT wPIEUP q^KEUT-KIYEOK qRIEUL-NIEUN qSS.GRIEUL",
  "qRIEUL-HIEUH qKAPYEOUNRIEUL qMIEUM-PIEUP qKAPYEOUNMIEUM qPIEUP-KIYEOK wNIEUN w^KEUT wSIOS"]

/-- Names from code point 1122 on. -/
def namesFrom1122 : List String := [
  "ba-KIYEOK bb^KEUT bbPIEUP xS.GSIOS xIOS-CIEUC wCIEUC xHIEUCH wTHIEUTH wPHIEUPH qKAPYEOUNPIEUP",
  "ySS.GPIEUP qSIOS-KIYEOK vNIEUN v^KEUT vRIEUL vMIEUM vPIEUP ba-KIYEOK vSS.GSIOS vIEUNG vCIEUC",
  "wHIEUCH vKHIEUKH vTHIEUTH vPHIEUPH vHIEUH qCHITUEUMSIOS zS.GSIOS rE;GCHIEUMSIOS bcS.GSIOS",
  "qP.SIOS qIEUNG-KIYEOK w^KEUT wMIEUM wPIEUP wSIOS wP.SIOS qSS.GIEUNG qIEUNG-CIEUC xHIEUCH",
  "wTHIEUTH wPHIEUPH qYESIEUNG qCIEUC-IEUNG rHITUEUMCIEUC ySS.GCIEUC rE;GCHIEUMCIEUC bbSS.GCIEUC",
  "rHIEUCH-KHIEUKH yHIEUH tTUEUMCHIEUCH rE;GCHIEUMCHIEUCH qPHIEUPH-PIEUP qKAPYEOUNPHIEUPH",
  "qSS.GHIEUH qYEOR*HIEUH qKIYEOK-^KEUT qNIEUN-SIOS wCIEUC wHIEUH q^KEUT-RIEUL qFIL+R",
  "hJUNGSE;G_FIL+R rA sE rYA tE rEO s rYEO t rO rWA tE rOE rYO rU rWEO t sI rYU rEU rYI rI rA-O",
  "tU rYA-O uYO rEO-O uU uEU rYEO-O vU rO-EO u tYE tO tU rYO-YA wE vEO uO uI rU-A uE tEO-EU tYE",
  "tU rYU-A uEO v uYEO w uU uI rEU-U uEU rYI-U rI-A tYA tO tU tEU t&AEA r&AEA w-EO xU xI",
  "rSS.G&AEA rA-EU rYA-U sEO-YA rO-YA vE i;GSE;G_KIYEOK rSS.GKIYEOK rKIYEOK-SIOS rNIEUN w-CIEUC",
  "xHIEUH r^KEUT rRIEUL w-KIYEOK xMIEUM xPIEUP xSIOS xTHIEUTH xPHIEUPH xHIEUH rMIEUM rPIEUP",
  "w-SIOS rSIOS sS.GSIOS rIEUNG rCIEUC sHIEUCH rKHIEUKH rTHIEUTH rPHIEUPH rHIEUH rKIYEOK-RIEUL",
  "ySIOS-KIYEOK rNIEUN-KIYEOK x^KEUT xSIOS xP.SIOS xTHIEUTH r^KEUT-KIYEOK yRIEUL",
  "rRIEUL-KIYEOK-SIOS xNIEUN x^KEUT bd-HIEUH rSS.GRIEUL rRIEUL-MIEUM-KIYEOK bdSIOS xPIEUP-SIOS",
  "bdHIEUH xKAPYEOUNPIEUP xSS.GSIOS xP.SIOS xKHIEUKH xYEOR*HIEUH rMIEUM-KIYEOK xRIEUL xPIEUP",
  "xSIOS yS.GSIOS xP.SIOS xCHIEUCH xHIEUH rKAPYEOUNMIEUM rPIEUP-RIEUL xPHIEUPH xHIEUH",
  "rKAPYEOUNPIEUP rSIOS-KIYEOK w^KEUT wRIEUL wPIEUP rP.SIOS rIEUNG-KIYEOK xSS.GKIYEOK rSS.GIEUNG",
  "rIEUNG-KHIEUKH rYESIEUNG z-SIOS baP.SIOS rPHIEUPH-PIEUP rKAPYEOUNPHIEUPH rHIEUH-NIEUN xRIEUL",
  "xMIEUM xPIEUP rYEOR*HIEUH rKIYEOK-NIEUN yPIEUP yCHIEUCH yKHIEUKH yHIEUH rSS.GNIEUN",
  "aETHIOPIC<YLLAB+_HA tU tI tAA tEE u tO uA sLA tU tI tAA tEE u tO tWA sHHA uU uI uAA uEE v uO",
  "uWA sMA tU tI tAA tEE u tO tWA sSZA uU uI uAA uEE v uO uWA sRA tU tI tAA tEE u tO tWA sSA tU",
  "tI tAA tEE u tO tWA tHA uU uI uAA uEE v uO uWA sQA tU tI tAA tEE u tO uA tWA 124A=uI uAA uEE v",
  "1250=tHA uU uI uAA uEE v uO 1258=uWA 125A=vI vAA vEE w 1260=sBA tU tI tAA tEE u tO tWA sVA tU",
  "tI tAA tEE u tO tWA sTA tU tI tAA tEE u tO tWA sCA tU tI tAA tEE u tO tWA sXA tU tI tAA tEE u",
  "tO uA tWA 128A=uI uAA uEE v 1290=sNA tU tI tAA tEE u tO tWA tYA uU uI uAA uEE v uO uWA",
  "sGLOTT%_A baU baI baAA baEE bb baO baWA sKA tU tI tAA tEE u tO uA tWA 12B2=uI uAA uEE v",
  "12B8=tXA uU uI uAA uEE v uO 12C0=uWA 12C2=vI vAA vEE w 12C8=sWA tU tI tAA tEE u tO uA",
  "sPH&YNGE%_A bdU bdI bdAA bdEE be bdO 12D8=sZA tU tI tAA tEE u tO tWA tHA uU uI uAA uEE v uO",
  "uWA sYA tU tI tAA tEE u tO uA sDA tU tI tAA tEE u tO tWA tDA uU uI uAA uEE v uO uWA sJA tU tI",
  "tAA tEE u tO tWA sGA tU tI tAA tEE u tO uA tWA 1312=uI uAA uEE v 1318=tGA uU uI uAA uEE v uO",
  "uWAA sTHA uU uI uAA uEE v uO uWA sCHA uU uI uAA uEE v uO uWA sPHA uU uI uAA uEE v uO uWA sTSA",
  "uU uI uAA uEE v uO uWA tZA uU uI uAA uEE v uO vA sFA tU tI tAA tEE u tO tWA sPA tU tI tAA tEE",
  "u tO tWA sRYA sMYA sFYA 135D=jCOMB**G_GEM*A^;_.]VOWEL_+NGTH_M&K tVOWEL_+NGTH_M&K tGEM*A^;_M&K",
  "jSEC^;_M&K jWORDSPACE jFULL<TOP jCOMMA jSEMICOL; jCOL; jP~FACE_COL; jQUES^;_M&K",
  "jP&AGRAPH<EP&ATOR jDIGIT_;E pTWO qH~E pFOUR qIVE pSIX qEV[ pE( pN*E jNUMB,_T[ rW[TY rHIRTY",
  "qFORTY rIFTY qSIXTY rEV[TY qE(Y qN*ETY qHUND~D qT[_THOUS.D 1380=jSYLLAB+<EBATBEIT_MWA sMWI uEE",
  "v sSEBATBEIT_BWA sBWI uEE v sSEBATBEIT_FWA sFWI uEE v sSEBATBEIT_PWA sPWI uEE v jT;%_M&K_YIZET",
  "uD,ET uRIKRIK uSHORT_RIKRIK uDIFAT uK[AT uCHI~T uHIDET uD,ET-HIDET uKURT 13A0=aCH,OKEE_+TT,_A",
  "qE qI qO qU qV qGA qKA qGE rI rO rU rV qHA rE rI rO rU rV qLA rE rI rO rU rV qMA rE rI rO rU",
  "qNA qHNA qNAH rE rI rO rU rV qQUA sE sI sO sU sV qSA r rE rI rO rU rV qDA qTA qDE qTE qDI q^",
  "qDO rU rV rLA qTLA sE sI sO sU sV rSA sE sI sO sU sV qWA rE rI rO rU rV qYA rE rI rO rU rV qMV",
  "13F8=j@YE xI xO xU xV wMV 1400=b.ADI.<YLLABICS_HYPH[ tE tAAI tI uI tO uO tY-C~E_OO tC&RI,_EE",
  "bbI tA uA tWE vST-C~E_WE uI uEST-C~E_WI uII uEST-C~E_WII uO uEST-C~E_WO uOO uEST-C~E_WOO",
  "tNASKAPI_WOO tWA uEST-C~E_WA uAA uEST-C~E_WAA tNASKAPI_WAA tAI tY-C~E_W tGLOTT%<TOP tF*%_ACUTE",
  "zGRAVE zBOTTOM_H%F_R*G zTOP_H%F_R*G zR(_H%F_R*G bbNG zDOUB+_ACUTE bgSHORT_V,^C%<TROKES",
  "zMIDD+_DOT zSHORT_HORIZ;T%<TROKE zPLUS zDOWN_TACK t[ t* t; t. tPE uAAI uI vI uO vO tY-C~E_POO",
  "tC&RI,_HEE bcI tPA vA uWE tWEST-C~E_PWE tPWI tWEST-C~E_PWI tPWII tWEST-C~E_PWII tPWO",
  "tWEST-C~E_PWO tPWOO tWEST-C~E_PWOO tPWA tWEST-C~E_PWA tPWAA tWEST-C~E_PWAA tY-C~E_PWAA tP",
  "tWEST-C~E_P tC&RI,_H tTE uAAI uI vI uO vO tY-C~E_TOO tC&RI,_DEE bcI tTA vA uWE tWEST-C~E_TWE",
  "tTWI tWEST-C~E_TWI tTWII tWEST-C~E_TWII tTWO tWEST-C~E_TWO tTWOO tWEST-C~E_TWOO tTWA",
  "tWEST-C~E_TWA tTWAA tWEST-C~E_TWAA tNASKAPI_TWAA tT uTE vI vO vA tKE uAAI uI vI uO vO",
  "tY-C~E_KOO tKA vA uWE tWEST-C~E_KWE tKWI tWEST-C~E_KWI tKWII tWEST-C~E_KWII tKWO tWEST-C~E_KWO",
  "tKWOO tWEST-C~E_KWOO tKWA tWEST-C~E_KWA tKWAA tWEST-C~E_KWAA tNASKAPI_KWAA tK uW",
  "tSOUTH-SLAVEY_KEH bhIH bhOH bhAH tCE uAAI uI vI uO vO tY-C~E_COO tCA vA uWE tWEST-C~E_CWE tCWI",
  "tWEST-C~E_CWI tCWII tWEST-C~E_CWII tCWO tWEST-C~E_CWO tCWOO tWEST-C~E_CWOO tCWA tWEST-C~E_CWA",
  "tCWAA tWEST-C~E_CWAA tNASKAPI_CWAA tC tSAYISI_TH tME uAAI uI vI uO vO tY-C~E_MOO tMA vA uWE",
  "tWEST-C~E_MWE tMWI tWEST-C~E_MWI tMWII tWEST-C~E_MWII tMWO tWEST-C~E_MWO tMWOO tWEST-C~E_MWOO",
  "tMWA tWEST-C~E_MWA tMWAA tWEST-C~E_MWAA tNASKAPI_MWAA tM tWEST-C~E_M tMH tATHAPASC._M",
  "tSAYISI_M tNE uAAI uI vI uO vO tY-C~E_NOO tNA vA uWE tWEST-C~E_NWE tNWA tWEST-C~E_NWA tNWAA",
  "tWEST-C~E_NWAA tNASKAPI_NWAA u tC&RI,_NG tNH t+ uAAI uI vI uO vO tY-C~E_LOO tLA vA uWE",
  "tWEST-C~E_LWE tLWI tWEST-C~E_LWI tLWII tWEST-C~E_LWII tLWO tWEST-C~E_LWO tLWOO tWEST-C~E_LWOO",
  "tLWA tWEST-C~E_LWA tLWAA tWEST-C~E_LWAA tL tWEST-C~E_L tMEDI%_L tSE uAAI uI vI uO vO tY-C~E<OO",
  "tSA vA uWE tWEST-C~E<WE tSWI tWEST-C~E<WI tSWII tWEST-C~E<WII tSWO tWEST-C~E<WO tSWOO",
  "tWEST-C~E<WOO tSWA tWEST-C~E<WA tSWAA tWEST-C~E<WAA tNASKAPI<WAA tS tATHAPASC.< tSW",
  "tBLACKFOOT< tMOOSE-C~E<K tNASKAPI<KW bc-W bcPWA bcTWA bcKWA bcCWA tSHE vI wI vO wO vA wA vWE",
  "tWEST-C~E<HWE tSHWI tWEST-C~E<HWI tSHWII tWEST-C~E<HWII tSHWO tWEST-C~E<HWO tSHWOO",
  "tWEST-C~E<HWOO tSHWA tWEST-C~E<HWA tSHWAA tWEST-C~E<HWAA tSH tYE uAAI uI vI uO vO u-C~E_YOO uA",
  "vA uWE tWEST-C~E_YWE tYWI tWEST-C~E_YWI tYWII tWEST-C~E_YWII tYWO tWEST-C~E_YWO tYWOO",
  "tWEST-C~E_YWOO tYWA tWEST-C~E_YWA tYWAA tWEST-C~E_YWAA tNASKAPI_YWAA tY tBIB+-C~E_Y",
  "tWEST-C~E_Y tSAYISI_YI t~ u-C~E_~ tWEST-C~E_+ tRAAI uI vI uO vO tWEST-C~E_LO tRA vA",
  "tWEST-C~E_LA tRWAA tWEST-C~E_RWAA tR tWEST-C~E_R tMEDI%_R tFE uAAI uI vI uO vO uA vA uWAA",
  "tWEST-C~E_FWAA tF tTHE tN-C~E_THE tTHI tN-C~E_THI tTHII tN-C~E_THII tTHO wO vA wA vWAA",
  "tWEST-C~E_THWAA tTH uTHE wI wO wA w uYE vI vO vA tNUNAVIK_HE bcI bdI bcO bdO bcA bdA bc yUT_H",
  "tHK tQAAI uI vI uO vO uA vA u tTLHE wI wO wA tWEST-C~E_~ beI beO beA tNGAAI vI wI vO wO vA wA",
  "v uNG tSAYISI<HE bcI bcO bcA tWOODS-C~E_THE bgI bgO bgA bg tLHI wI vO wO vA wA v tTH-C~E_THE",
  "bdI beI bdO beO bdA beA bd tAIVILIK_B tBLACKFOOT_E bdI bdO bdA bdWE beI beO beA bdNE beI beO",
  "beA bdKE beI beO beA tSAYISI_HE bbI bbO bbA tC&RI,_GHU bdO bdE beE bdI bdA bbRU bcO bcE bdE",
  "bcI bcA bbWU bcO bcE bdE bcI bcA bbHWU bdO bdE beE bdI bdA bbTHU bdO bdE beE bdI bdA bcTU bdO",
  "bdE beE bdI bdA bbPU bcO bcE bdE bcI bcA bc bbGU bcO bcE bdE bcI bcA bbKHU bdO bdE beE bdI bdA",
  "bcKU bdO bdE beE bdI bdA bd bbNU bcO bcE bdE bcI bcA bbMU bcO bcE bdE bcI bcA bbYU bcO bcE bdE",
  "bcI bcA bbJU tSAYISI_JU tC&RI,_JO bcE bdE bcI tSAYISI_JI tC&RI,_JA bcJU bdO bdE beE bdI bdA",
  "bbLU bcO bcE bdE bcI bcA bbDLU bdO bdE beE bdI bdA bbLHU bdO bdE beE bdI bdA bbTLHU beO beE",
  "bfE beI beA bdU bdO bdE beE bdI bdA bbZU bcO bcE bdE bcI bcA bc bb*I^%_Z bbDZU bdO bdE beE bdI",
  "bdA bbSU bcO bcE bdE bcI bcA bcHU bdO bdE beE bdI bdA bd bbTSU bdO bdE beE bdI bdA bbCHU bdO",
  "bdE beE bdI bdA bbTTSU beO beE bfE beI beA uHI<IGN tFULL<TOP tQAI tNGAI uNGI xI wO xO wA xA",
  "tWOODS-C~E_THWEE bhI biI bhO biO bhA biA beF*%_TH tBLACKFOOT_W aOGHAM<PACE_M&K g+TT,_BEITH",
  "nLUIS nFE&N nSAIL nNI; nUATH nDAIR nT*NE nCOLL oEIRT nMU* nGORT nNGEAD% nSTRAIF nRUIS nAILM",
  "n;N nUR nEADHADH nIODHADH nEABHADH nOR nUIL+.N nIF* nEAMH.CHOLL nPEITH gFEATH,_M&K",
  "g~V,SE]FEATH,_M&K 16A0=aRUNIC_+TT,_FEHU_FEOH_FE_F nV nURUZ_UR_U nYR o nW nTHURISAZ_THURS_THORN",
  "nETH n.SUZ_A nOS_O nAC_A oESC nL;G-BR.CH-OSS_O nSHORT-TWIG-OSS_O nO oE oN nRAIDO_RA]~I]R",
  "nKAUNA nC[ nKAUN_K nG n[G nGEBO_GYFU_G o& nWUNJO_WYNN_W nHAGLAZ_H pEGL_H nL;G-BR.CH-HAG%L_H",
  "nSHORT-TWIG-HAG%L_H nNAUDIZ_NY]NAU]N nSHORT-TWIG-NAU]N nDOTTED-N nISAZ_IS_ISS_I nE nJ,._J nG,",
  "nL;G-BR.CH-&_AE nSHORT-TWIG-&_A nIWAZ_EOH nP,THO_PEORTH_P n%GIZ_EOLHX nSOWILO<",
  "oIGEL_L;G-BR.CH-SOL< oHORT-TWIG-SOL< nC nZ n^WAZ_^R_TYR_T nSHORT-TWIG-TYR_T nD",
  "nB,K.._BEORC_BJ&K._B nSHORT-TWIG-BJ&K._B nDOTTED-P nOP[-P nEHWAZ_EH_E nM.NAZ_M._M",
  "nL;G-BR.CH-MADR_M nSHORT-TWIG-MADR_M nLAUKAZ_LAGU_LOGR_L nDOTTED-L n*GWAZ q nDAGAZ_DAEG_D",
  "nOTH%._ETHEL_O nE& nIOR nCWEORTH o%C oE%C nST. nL;G-BR.CH-YR nSHORT-TWIG-YR nICEL.DIC-YR nQ nX",
  "gS*G+_PUNCTUA^; gMUL^P+_PUNCTUA^; gCROSS_PUNCTUA^; g&LAUG<YMBOL gTVIMADUR<YMBOL",
  "gBELGTHOR<YMBOL g+TT,_K nSH nOO nFR.KS_CASKET_OS bbIS bbEH bbAC bcESC 1700=aTAG%OG_+TT,_A pI",
  "pU pKA pGA pNGA pTA pDA pNA pPA pBA pMA pYA pRA pLA pWA pSA pHA iVOWEL<IGN_I tU iSIGN_VIRAMA",
  "nPAMUDPOD 171F=i+TT,_&CHAIC_RA aH.UNOO_+TT,_A pI pU pKA pGA pNGA pTA pDA pNA pPA pBA pMA pYA",
  "pRA pLA pWA pSA pHA iVOWEL<IGN_I tU iSIGN_PAMUDPOD aPHILIPP*E<*G+_PUNCTUA^; lDOUB+_PUNCTUA^;",
  "1740=aBUHI]+TT,_A nI nU nKA nGA nNGA nTA nDA nNA nPA nBA nMA nYA nRA nLA nWA nSA nHA",
  "gVOWEL<IGN_I rU 1760=aTAGB.WA_+TT,_A qI qU qKA qGA qNGA qTA qDA qNA qPA qBA qMA qYA 176E=qLA",
  "qWA qSA 1772=jVOWEL<IGN_I uU 1780=aKHM,_+TT,_KA oHA oO oHO nNGO nCA oHA oO oHO nNYO nDA nTTHA",
  "nDO nTTHO nNNO nTA oHA oO oHO nNO nBA nPHA oO oHO nMO nYO nRO nLO nVO nSHA oSO oA nHA nLA nQA",
  "g*DEP[D[T_VOWEL_QAQ baA zI baI zU baK baU bbV yRY baY yLY baY yQE zAI zOO_TYPE_;E bhTWO zAU",
  "gVOWEL_*H,[T_AQ wA mSIGN_AA rI sI rY sY rU sU sA rOE rYA rIE rE rAE sI rOO rAU gSIGN_NIKAHIT",
  "l~AHMUK lYUUK%EAP*TU lMUUSIKATO. lTRIISAP lB.TOC lROBAT lTO.DAKHIAT lKAKABAT lAHSDA",
  "lSAMYOK<.NYA lVIRIAM lCO[G lBATHAMASAT lKH. lB&IYOOS. lCAMNUC_PII_KUUH l+K_TOO lBEYY%",
  "lPHNAEK_MU. lKOOMUUT gCURR[CY<YMBOL_RIEL gSIGN_AVAKRAHAS.YA mTTHAC. 17E0=gDIGIT_Z,O m;E mTWO",
  "nH~E mFOUR nIVE mSIX nEV[ mE( mN*E 17F0=gSYMBOL_+K_ATTAK<; xMUOY xPII xBEI yU; xPRAM bb-MUOY",
  "bcPII bcBEI bdU; 1800=aM;GOLI._BIRGA kELLIPSIS kCOMMA kFULL<TOP kCOL; kFOUR_DOTS",
  "kTODO<OFT_HYPH[ kSIBE<YLLAB+_BOUND&Y_M&K, kM.CHU_COMMA rFULL<TOP kNIRUGU kF~E_V&IA^;<E+CTOR_;E",
  "biTWO bjH~E kVOWEL<EP&ATOR kF~E_V&IA^;<E+CTOR_FOUR kDIGIT_Z,O q;E qTWO rH~E qFOUR rIVE qSIX",
  "rEV[ qE( qN*E 1820=k+TT,_A rE rI rO rU rOE rUE rEE rNA r.G rBA rPA rQA rGA rMA rLA rSA sHA rTA",
  "rDA rCHA rJA rYA rRA rWA rFA rKA sHA rTSA rZA rHAA rZRA rLHA rZHI rCHI rTODO_L;G_VOWEL<IGN wE",
  "wI wO wU wOE wUE w.G wBA wPA wQA wGA wMA wTA wDA wCHA wJA wTSA wYA wWA wKA wGAA wHAA wJIA wNIA",
  "wDZA rSIBE_E wI xY wUE x w.G wKA wGA wHA wPA wSHA wTA wDA wJA wFA wGAA wHAA wTSA wZA wRAA wCHA",
  "wZHA rM.CHU_I yKA yRA yFA yZHA rCHA#TWO_DOTS 1880=r%I_G%I_.USV&A_;E baVIS&GA_;E baDAM&U",
  "baUBADAMA ba*V,TE]UBADAMA baB%UDA baTH~E_B%UDA baA baI baKA baNGA baCA baTTA bcHA baDDA baNNA",
  "baTA baDA baPA bbHA baSSA baZHA bbA baAH rTODO_%I_G%I_TA bfZHA rM.CHU_%I_G%I_GHA bhNGA bhCA",
  "bhJHA bhTTA bhDDHA bhTA bhDHA bhSSA bhCYA bhZHA biA r%I_G%I_H%F_U bfYA rM.CHU_%I_G%I_BHA",
  "r%I_G%I_DAG%GA rM.CHU_%I_G%I_LHA 18B0=aC.ADI.<YLLABICS_OY tAY uAY tWAY tPOY uAY uWOY tTAY tKAY",
  "uWAY tMAY tNOY uAY tLAY tSOY uAY uHOY vAY vWOY tYOY uAY tRAY tNWI tOJIBWAY_NWI tNWII",
  "tOJIBWAY_NWII tNWO tOJIBWAY_NWO tNWOO tOJIBWAY_NWOO tRWEE vI wI vO wO vA tOJIBWAY_P bbT bbK",
  "bbC bbM bbN bbS bcH tEAST,N_W tWEST,N_W tF*%<M%L_R*G zRAISE]DOT tR-C~E_RWE tWEST-C~E_LOO beAA",
  "tTHWE wA uTHWE wOO wAA uLHWE wOO tSAYISI<HWE bcOO baHOO tC&RI,_GWU bbD[E_GEE bbGAA bcWA",
  "tSAYISI_JUU tC&RI,_JWA tBEAV,_D[E_L bfR tC&RI,_D[T%< 1900=aLIMBU_VOWEL-C&RI,_+TT, g+TT,_KA oHA",
  "nGA oHA nNGA nCA oHA nJA oHA nY. nTA oHA nDA oHA nNA nPA oHA nBA oHA nMA nYA nRA nLA nWA nSHA",
  "oSA oA nHA nGY. nTRA 1920=gVOWEL<IGN_A rI rU rEE rAI rOO rAU rE rO gSUBJO*E]+TT,_YA xRA xWA",
  "1930=hM%!KA tNGA t.USV&A tTA tNA tPA tMA tRA tLA hIGN_MUKPHR[G lKEMPHR[G lSA-I 1940=lLOO",
  "1944=gEXCLAMA^;_M&K gQUES^;_M&K gDIGIT_Z,O m;E mTWO nH~E mFOUR nIVE mSIX nEV[ mE( mN*E",
  "aTAI_+_+TT,_KA oXA oNGA oTSA oSA oYA oTA pHA oLA oPA pHA oMA oFA oVA oHA oQA oKHA oTSHA oNA oA",
  "oI oEE pH oU oOO p oUE oE oAUE pI 1970=oT;E-2 t3 t4 t5 t6 1980=aNEW_TAI_LUE_+TT,_HIGH_QA",
  "tLOW_QA tHIGH_KA yXA yNGA tLOW_KA xXA xNGA tHIGH_TSA ySA yYA tLOW_TSA xSA xYA tHIGH_TA zHA yNA",
  "tLOW_TA yHA xNA tHIGH_PA zHA yMA tLOW_PA yHA xMA tHIGH_FA yVA yLA tLOW_FA xVA xLA tHIGH_HA yDA",
  "yBA tLOW_HA xDA xBA tHIGH_KVA yXVA tLOW_KVA xXVA tHIGH<UA tLOW<UA 19B0=mVOWEL<IGN_VOWEL<HORT[,",
  "xAA xII xU yU xE xAE xO yA xUE xAY yAY xUY xOY yAY xUEY xIY m+TT,_F*%_V zNG ba zM zK zD zB",
  "mT;E_M&K-1 w2 19D0=mDIGIT_Z,O s;E sTWO tH~E sFOUR tIVE sSIX tEV[ sE( sN*E mTHAM_DIGIT_;E",
  "19DE=mSIGN_LAE uV aKHM,<YMBOL_PATHAMASAT nMUOY_KOET nPII_KOET nBEI_KOET oU;_KOET nPRAM_KOET",
  "r-MUOY_KOET sPII_KOET sBEI_KOET tU;_KOET nDAP_KOET q-MUOY_KOET rPII_KOET rBEI_KOET sU;_KOET",
  "rPRAM_KOET nTUTEYASAT nMUOY_ROC nPII_ROC nBEI_ROC oU;_ROC nPRAM_ROC r-MUOY_ROC sPII_ROC",
  "sBEI_ROC tU;_ROC nDAP_ROC q-MUOY_ROC rPII_ROC rBEI_ROC sU;_ROC rPRAM_ROC aBUG*ESE_+TT,_KA qGA",
  "qNGA sKA qPA qBA qMA rPA qTA qDA qNA rRA qCA qJA qNYA sCA qYA qRA qLA qVA qSA qA qHA",
  "jVOWEL<IGN_I uU uE uO uAE 1A1E=jP%LAWA j[]OF<EC^; aTAI_THAM_+TT,_HIGH_KA wHA wXA qLOW_KA vXA",
  "vHA qNGA qHIGH_CA wHA qLOW_CA uSA uCHA qNYA qRATA qHIGH_RATHA qDA qLOW_RATHA qR.A qHIGH_TA wHA",
  "qLOW_TA vHA qNA qBA qHIGH_PA wHA vFA qLOW_PA uFA uPHA qMA qLOW_YA qHIGH_YA qRA rUE qLA rUE qWA",
  "qHIGH<HA wSA wA vHA qLLA qA qLOW_HA qI rI qU rU qEE qOO qLAE qG~AT<A jC;S;.T<IGN_MEDI%_RA bfLA",
  "yLA_T.G_LAI jSIGN_MAI_K.G_LAI jC;S;.T<IGN_F*%_NGA yLOW_PA yHIGH_RATHA_OR_LOW_PA yMA yBA ySA",
  "1A60=jSIGN<AKOT jVOWEL<IGN_A uMAI<AT uAA uT%L_AA uI vI uUE vUE v vU uO vA_BELOW vY uE uAE uOO",
  "uAI uTHAM_AI uOA? jSIGN_MAI_K.G oT;E-1 t2 oKHU[_T;E-3 z4 z5 oRA_HAAM oMAI<AM oKHU[-LUE_K&.",
  "1A7F=jCOMB**G_CRYPTOGRAMMIC_DOT jHORA_DIGIT_Z,O u;E uTWO vH~E uFOUR vIVE uSIX vEV[ uE( uN*E",
  "1A90=jTHAM_DIGIT_Z,O u;E uTWO vH~E uFOUR vIVE uSIX vEV[ uE( uN*E 1AA0=jSIGN_WI.G tWAAK oSAW.",
  "oKEOW oHOY oDOKMAI o~V,SE]ROTATE]R.A oMAI_YAMOK oKA. sKUU oSATKA. vKUU oH.G oCA.G",
  "1AB0=aCOMB**G_DOUB+]CIRCUMF+X_ACC[T lIA,ESIS-R*G k*F*ITY kDOWN|: kTRIP+_DOT kX-X_BELOW",
  "kWIGGLY_L*E_BELOW kOP[_M&K_BELOW kDOUB+_OP[_M&K_BELOW kL(_C[TR%IZA^;<TROKE_BELOW",
  "kSTR;G_C[TR%IZA^;<TROKE_BELOW kP&[THESES? kDOUB+_P&[THESES? kP&[THESES_BELOW wOV,LAY",
  "kLAT*<M%!W_BELOW bdTURNE]W_BELOW lEFT_P&[THESIS?_+FT kR(_P&[THESIS?_R(",
  "k+FT_P&[THESIS_BELOW_+FT kR(_P&[THESIS_BELOW_R( kSQU&E_BRACKETS? kNUMB,<IGN? k*V,TE]DOUB+_&CH?",
  "kPLUS<IGN? kDOUB+_PLUS<IGN? bbBELOW kTRIP+_ACUTE_ACC[T kLAT*<M%!*SUL&_G blR blT",
  "1B00=aB%*ESE<IGN_ULU_RICEM sC.DRA oCECEK oSUR.G oBISAH j+TT,_AK&A v_TEDUNG qIK&A v_TEDUNG",
  "qUK&A v_TEDUNG qRA_~PA x_TEDUNG qLA_+NGA y_TEDUNG qEK&A qAIK&A qOK&A v_TEDUNG qKA s_MAHAPR.A",
  "qGA s_GORA qNGA qCA s_LACA qJA s_J,A qNYA qTA_LA^K tMURDA_MAHAPR.A qDA_MURDA_%PAPR.A zMAHAPR.A",
  "qNA_RAMBAT qTA s_TAWA qDA s_MADU qNA qPA s_KAP% qBA s_KEMB.G qMA qYA qRA qLA qWA qSA<AGA vPA s",
  "qHA jSIGN_R,EK. jVOWEL<IGN_TEDUNG uULU x<&I uSUKU y_ILUT uRA_~PA bb_TEDUNG uLA_+NGA bc_TEDUNG",
  "uT%*G ba_~PA bbTEDUNG bb~PA_TEDUNG uPEPET z_TEDUNG jADEG_ADEG j+TT,_KAF<ASAK rHOT<ASAK",
  "qTZIR<ASAK qEF<ASAK qVE<ASAK qZ%<ASAK qASYURA<ASAK rRCHAIC_JNYA 1B50=jDIGIT_Z,O p;E pTWO qH~E",
  "pFOUR qIVE pSIX qEV[ pE( pN*E jP.^ lMADA jW*DU jC&IK_PAMUNGKAH pSIKI pP&,[ jPAM[[G",
  "jMUSIC%<YMBOL_D;G z[G zUNG z.G bc<UR.G z*G zA[G zEUNG zA*G baNG_GEDE yCOMB**G_TEGEH bi[DEP",
  "biKEMPUL bmLI biJEGOG. biKEMPUL#JEGOG. bmLI#JEGOG. biB[DE biG;G yR(-H.]OP[_DUG bpAG",
  "bjCLOSE]TUK brAK y+FT-H.]OP[_P.G boUNG biCLOSE]PLAK brUK biOP[_P*G jP.^_L.T.G lMADA_L.T.G",
  "1B80=aSUND.ESE<IGN_P.YECEK sGLAY& tWISAD k+TT,_A rI rU rAE rO rE sU rKA rQA rGA rNGA rCA rJA",
  "rZA rNYA rTA rDA rNA rPA rFA rVA rBA rMA rYA rRA rLA rWA rSA rXA rHA kC;S;.T<IGN_PAM*GK%",
  "bbNYAKRA bdIKU kVOWEL<IGN_P.GHULU yYUKU yAELA[G yOL;G xMEPET xNEU+UNG kSIGN_PAMAAEH pVIRAMA",
  "kC;S;.T<IGN_PAS.G._MA biWA k+TT,_KHA rSYA kDIGIT_Z,O q;E qTWO rH~E qFOUR rIVE qSIX rEV[ qE(",
  "qN*E kAVAGRAHA k+TT,_~U r+U rBHA rF*%_K xM aBATAK_+TT,_A nSIM%UNGUN_A nHA nSIM%UNGUN_HA",
  "nM.DAIL*G_HA nBA nK&O_BA nPA nSIM%UNGUN_PA nNA nM.DAIL*G_NA nWA nSIM%UNGUN_WA nPAKPAK_WA nGA",
  "nSIM%UNGUN_GA nJA nDA nRA nSIM%UNGUN_RA nMA nSIM%UNGUN_MA oOUTH,N_TA nNORTH,N_TA nSA",
  "oIM%UNGUN<A nM.DAIL*G<A nYA nSIM%UNGUN_YA nNGA nLA nSIM%UNGUN_LA nNYA nCA nNDA nMBA nI nU",
  "gSIGN_TOMPI gVOWEL<IGN_E rPAKPAK_E rEE rI rK&O_I rO rK&O_O rU s_FOR<IM%UNGUN<A gC;S;.T<IGN_NG",
  "vH gP.GOLAT j;G;. 1BFC=gSYMBOL_B*DU_NA_METEK tP*&BORAS tJUDUL tP.GOLAT a+PCHA_+TT,_KA pLA pHA",
  "oGA pLA oNGA oCA pHA oJA oNYA oTA pHA oDA oNA oPA pLA pHA oFA pLA oBA pLA oMA pLA oTSA qHA",
  "oDZA oYA oRA oLA oHA pLA oVA oSA pHA oWA oA hSUBJO*E]+TT,_YA yRA hVOWEL<IGN_AA sI sO tO sU tU",
  "sE hC;S;.T<IGN_K wM wL wN wP wR wT wNY*-DO wK.G hSIGN_R. mNUKTA 1C3B=hPUNCTUA^;_TA-ROL",
  "tNYET_THYOOM_TA-ROL tC,-WA tTSHOOK_C,-WA z hDIGIT_Z,O n;E nTWO oH~E nFOUR oIVE nSIX oEV[ nE(",
  "nN*E 1C4D=h+TT,_TTA qHA oDDA aOL_CHIKI_DIGIT_Z,O p;E pTWO qH~E pFOUR qIVE pSIX qEV[ pE( pN*E",
  "j+TT,_LA qAT rG rNG rL qLAA qAAK sJ sM sW qLI qIS rH rNY rR qLU qUC rD rNN rY q+ qEP rDD rN",
  "rRR qLO qOTT rB rV rH jMU_TTUDDAG jGAAHLAA_TTUDDAAG jMU-GAAHLAA_TTUDDAAG j~LAA jPHA&KAA jAHAD",
  "jPUNCTUA^;_MUCAAD vDOUB+_MUCAAD aCYRILLIC<M%!ROUNDE]VE wL;G-+GGE]DE wN&ROW_O wWIDE_ES wT%L_TE",
  "xH~E-+GGE]TE x%L_H&D<IGN bbYAT wUNB+NDE]UK 1C90=aGEORGI._MTAVRULI_$. bhB. bhG. bhD; bh[ bhV*",
  "bhZ[ bhT. bh* bhK. bhLAS bhM. bhN& bh; bhP& bhZH& bhRAE bhS. bhT& bhUN bhPH& bhKH& bhGH. bhQ&",
  "bhSH* bhCH* bi. bhJIL bhCIL biH& bhX. bhJH. bhHAE biE biIE bhWE bhH& biOE bhFI bhYN bhELIFI",
  "bhTURNE]G. bhA* 1CBD=bi[ bhH&D<IGN bhLABI%<IGN aSUND.ESE_PUNCTUA^;_B*DU<URYA bcP.GL;G bdURNAMA",
  "bcCAKRA bc+U<AT.GA bcKA<AT.GA bcDA<AT.GA bcBA<AT.GA 1CD0=aVEDIC_T;E_K&SH.A lSH&A lPR[KHA",
  "gSIGN_NIHSHVASA lYAJURVEDIC_MIDL*E<V&ITA gT;E_YAJURVEDIC_AGGRAVATE]*DEP[D[T<V&ITA",
  "w*DEP[D[T<V&ITA wKATHAKA_*DEP[D[T<V&ITA lC.DRA_BELOW",
  "lYAJURVEDIC_KATHAKA_*DEP[D[T<V&ITA<CHROED, lDOUB+<V&ITA lTRIP+<V&ITA lKATHAKA_.UDATTA",
  "lDOT_BELOW lTWO_DOTS_BELOW mH~E_DOTS_BELOW lRIGVEDIC_KASHMIRI_*DEP[D[T<V&ITA",
  "lATH&VAVEDIC_*DEP[D[T<V&ITA gSIGN_VIS&GA<V&ITA tUDATTA l~V,SE]VIS&GA_UDATTA lVIS&GA_.UDATTA",
  "l~V,SE]VIS&GA_.UDATTA lVIS&GA_UDATTA#TAIL t.UDATTA#TAIL l.USV&A_.T&GOMUKHA uBAHIRGOMUKHA",
  "uVAMAGOMUKHA bf#TAIL l^RYAK lHEXIFORM_L;G_.USV&A lL;G_.USV&A lRTH.G_L;G_.USV&A",
  "l.USV&A_UBHAYATO_MUKHA mRDHAVIS&GA lROTATE]&DHAVIS&GA gT;E_C.DRA? gSIGN_JIHVAMULIYA",
  "lUPADHM.IYA lA^KRAMA gT;E_R*G? lDOUB+_R*G? gSIGN_DOUB+_.USV&A_.T&GOMUKHA",
  "1D00=aLAT*_+TT,<M%L_CAPIT%_A bcE g@TURNE]AE g+TT,<M%L_CAPIT%_B&~]B bbC bbD bbETH bc",
  "g@TURNE]OP[_E baI g+TT,<M%L_CAPIT%_J bbK bbL#STROKE bbM bb~V,SE]N bbO bcP[_O g@SIDEWAYS_O",
  "bdP[_O bd#STROKE tTURNE]OE g+TT,<M%L_CAPIT%_OU g@TOP_H%F_O tBOTTOM_H%F_O g+TT,<M%L_CAPIT%_P",
  "bb~V,SE]R bbTURNE]R bc bbU g@SIDEWAYS_U bcDIA,ESIZE]U bcTURNE]M g+TT,<M%L_CAPIT%_V bbW bbZ",
  "bbEZH nVOICE]L&YNGE%<PIR.T nA* aG~EK_+TT,<M%L_CAPIT%_GAMMA bbLAMDA bbPI bbRHO bbPSI",
  "aCYRILLIC_+TT,<M%L_CAPIT%_EL aMODIFI,_+TT,_CAPIT%_A zE yB z&~]B yD yE y~V,SE]E yG yH yI yJ yK",
  "yL yM yN y~V,SE]N yO zU yP yR yT yU yW qSM%L_A wTURNE]A w%PHA wTURNE]AE wB wD wE wSCHWA wOP[_E",
  "wTURNE]OP[_E wG wTURNE]I wK wM w[G wO xP[_O wTOP_H%F_O wBOTTOM_H%F_O wP wT wU wSIDEWAYS_U",
  "wTURNE]M wV wA* wBETA wG~EK_GAMMA wDELTA wG~EK_PHI wCHI aLAT*<UBSCRIPT<M%!I bdR bdU bdV",
  "aG~EK<UBSCRIPT<M%!BETA bdGAMMA bdRHO bdPHI bdCHI aLAT*<M%!UE tB#MIDD+_^LDE tD#MIDD+_^LDE",
  "tF#MIDD+_^LDE tM#MIDD+_^LDE tN#MIDD+_^LDE tP#MIDD+_^LDE tR#MIDD+_^LDE baFISHHOOK_.]MIDD+_^LDE",
  "tS#MIDD+_^LDE tT#MIDD+_^LDE tZ#MIDD+_^LDE tTURNE]G aMODIFI,_+TT,_CYRILLIC_[ aLAT*<M%!*SUL&_G",
  "tTH#STRIKETHROUGH m$I#STROKE m+TT,_IOTA#STROKE tP#STROKE m$U#STROKE m+TT,_UPSIL;#STROKE",
  "tB#P%AT%_HOOK tD#P%AT%_HOOK tF#P%AT%_HOOK tG#P%AT%_HOOK tK#P%AT%_HOOK tL#P%AT%_HOOK",
  "tM#P%AT%_HOOK tN#P%AT%_HOOK tP#P%AT%_HOOK tR#P%AT%_HOOK tS#P%AT%_HOOK tESH#P%AT%_HOOK",
  "tV#P%AT%_HOOK tX#P%AT%_HOOK tZ#P%AT%_HOOK tA#~TROF+X_HOOK uLPHA#~TROF+X_HOOK tD#HOOK_.]TAIL",
  "tE#~TROF+X_HOOK tOP[_E#~TROF+X_HOOK t~V,SE]OP[_E#~TROF+X_HOOK tSCHWA#~TROF+X_HOOK",
  "tI#~TROF+X_HOOK tOP[_O#~TROF+X_HOOK tESH#~TROF+X_HOOK tU#~TROF+X_HOOK tEZH#~TROF+X_HOOK",
  "aMODIFI,_+TT,<M%L_TURNE]%PHA wC x#CURL wETH w~V,SE]OP[_E wF wDOT+SS_J#STROKE wSCRIPT_G",
  "wTURNE]H wI#STROKE xOTA wCAPIT%_I bf#STROKE wJ#CROSSED-TAIL wL#~TROF+X_HOOK bdP%AT%_HOOK",
  "wCAPIT%_L wM#HOOK wTURNE]M#L;G_+G wN#+FT_HOOK bd~TROF+X_HOOK wCAPIT%_N wB&~]O wPHI wS#HOOK",
  "wESH wT#P%AT%_HOOK wU_B& xPSIL; wCAPIT%_U wV#HOOK wTURNE]V wZ x#~TROF+X_HOOK bdCURL wEZH",
  "wTHETA aCOMB**G_DOTTE]GRAVE_ACC[T rACUTE_ACC[T kSNAKE_BELOW lUSP[SI;_M&K kMACR;-ACUTE",
  "kGRAVE-MACR; kMACR;-GRAVE kACUTE-MACR; kGRAVE-ACUTE-GRAVE kACUTE-GRAVE-ACUTE kLAT*<M%!R_BELOW",
  "kB~VE-MACR; kMACR;-B~VE kDOUB+_CIRCUMF+X? kOG;EK? kZIGZAG_BELOW kIS_BELOW kUR? lS?",
  "kLAT*<M%!FLATT[E]OP[_A? bdAE beO beV bdC_CEDILLA bd*SUL&_D bdETH bdG q+TT,<M%L_CAPIT%_G q@K",
  "bdL q+TT,<M%L_CAPIT%_L blM q@N q+TT,<M%L_CAPIT%_N blR q@R_ROTUNDA bdS bdL;G< bdZ bd%PHA bdB",
  "beETA bdSCHWA bdF bdL#DOUB+_MIDD+_^LDE bdO#L(_C[TR%IZA^;<TROKE bdP bdESH",
  "bdU#L(_C[TR%IZA^;<TROKE bdW bdA#DIA,ESIS bdO#DIA,ESIS bdU#DIA,ESIS kUP_TACK? kKAVYKA?_R( x+FT",
  "kDOT?_+FT kWIDE_*V,TE]BRIDGE_BELOW kDOT_BELOW_+FT lE+^;_M&K lOUB+_*V,TE]B~VE_BELOW",
  "k%MOST_EQU%_TO_BELOW k+FT:HEAD? kR(:HEA].]DOWN:HEA]BELOW aLAT*_$A#R*G_BELOW g@A#R*G_BELOW",
  "g$B#DOT? g@B#DOT? g$B#DOT_BELOW g@B#DOT_BELOW g$B#L*E_BELOW g@B#L*E_BELOW g$C#CEDILLA_.]ACUTE",
  "g@C#CEDILLA_.]ACUTE g$D#DOT? g@D#DOT? g$D#DOT_BELOW g@D#DOT_BELOW g$D#L*E_BELOW g@D#L*E_BELOW",
  "g$D#CEDILLA g@D#CEDILLA g$D#CIRCUMF+X_BELOW g@D#CIRCUMF+X_BELOW g$E#MACR;_.]GRAVE",
  "g@E#MACR;_.]GRAVE g$E#MACR;_.]ACUTE g@E#MACR;_.]ACUTE g$E#CIRCUMF+X_BELOW g@E#CIRCUMF+X_BELOW",
  "g$E#^LDE_BELOW g@E#^LDE_BELOW g$E#CEDILLA_.]B~VE g@E#CEDILLA_.]B~VE g$F#DOT? g@F#DOT?",
  "g$G#MACR; g@G#MACR; g$H#DOT? g@H#DOT? g$H#DOT_BELOW g@H#DOT_BELOW g$H#DIA,ESIS g@H#DIA,ESIS",
  "g$H#CEDILLA g@H#CEDILLA g$H#B~VE_BELOW g@H#B~VE_BELOW g$I#^LDE_BELOW g@I#^LDE_BELOW",
  "g$I#DIA,ESIS_.]ACUTE g@I#DIA,ESIS_.]ACUTE g$K#ACUTE g@K#ACUTE g$K#DOT_BELOW g@K#DOT_BELOW",
  "g$K#L*E_BELOW g@K#L*E_BELOW g$L#DOT_BELOW g@L#DOT_BELOW g$L#DOT_BELOW_.]MACR;",
  "g@L#DOT_BELOW_.]MACR; g$L#L*E_BELOW g@L#L*E_BELOW g$L#CIRCUMF+X_BELOW g@L#CIRCUMF+X_BELOW",
  "g$M#ACUTE g@M#ACUTE g$M#DOT? g@M#DOT? g$M#DOT_BELOW g@M#DOT_BELOW g$N#DOT? g@N#DOT?",
  "g$N#DOT_BELOW g@N#DOT_BELOW g$N#L*E_BELOW g@N#L*E_BELOW g$N#CIRCUMF+X_BELOW",
  "g@N#CIRCUMF+X_BELOW g$O#^LDE_.]ACUTE g@O#^LDE_.]ACUTE g$O#^LDE_.]DIA,ESIS g@O#^LDE_.]DIA,ESIS",
  "g$O#MACR;_.]GRAVE g@O#MACR;_.]GRAVE g$O#MACR;_.]ACUTE g@O#MACR;_.]ACUTE g$P#ACUTE g@P#ACUTE",
  "g$P#DOT? g@P#DOT? g$R#DOT? g@R#DOT? g$R#DOT_BELOW g@R#DOT_BELOW g$R#DOT_BELOW_.]MACR;",
  "g@R#DOT_BELOW_.]MACR; g$R#L*E_BELOW g@R#L*E_BELOW g$S#DOT? g@S#DOT? g$S#DOT_BELOW",
  "g@S#DOT_BELOW g$S#ACUTE_.]DOT? g@S#ACUTE_.]DOT? g$S#C&;_.]DOT? g@S#C&;_.]DOT?",
  "g$S#DOT_BELOW_.]DOT? g@S#DOT_BELOW_.]DOT? g$T#DOT? g@T#DOT? g$T#DOT_BELOW g@T#DOT_BELOW",
  "g$T#L*E_BELOW g@T#L*E_BELOW g$T#CIRCUMF+X_BELOW g@T#CIRCUMF+X_BELOW g$U#DIA,ESIS_BELOW",
  "g@U#DIA,ESIS_BELOW g$U#^LDE_BELOW g@U#^LDE_BELOW g$U#CIRCUMF+X_BELOW g@U#CIRCUMF+X_BELOW",
  "g$U#^LDE_.]ACUTE g@U#^LDE_.]ACUTE g$U#MACR;_.]DIA,ESIS g@U#MACR;_.]DIA,ESIS g$V#^LDE g@V#^LDE",
  "g$V#DOT_BELOW g@V#DOT_BELOW g$W#GRAVE g@W#GRAVE g$W#ACUTE g@W#ACUTE g$W#DIA,ESIS g@W#DIA,ESIS",
  "g$W#DOT? g@W#DOT? g$W#DOT_BELOW g@W#DOT_BELOW g$X#DOT? g@X#DOT? g$X#DIA,ESIS g@X#DIA,ESIS",
  "g$Y#DOT? g@Y#DOT? g$Z#CIRCUMF+X g@Z#CIRCUMF+X g$Z#DOT_BELOW g@Z#DOT_BELOW g$Z#L*E_BELOW",
  "g@Z#L*E_BELOW tH#L*E_BELOW tT#DIA,ESIS tW#R*G? tY#R*G? tA#R(_H%F_R*G tL;G<#DOT? bgIAG;%<TROKE",
  "bfHIGH<TROKE g$SH&P< g@DELTA g$A#DOT_BELOW g@A#DOT_BELOW g$A#HOOK? g@A#HOOK?",
  "g$A#CIRCUMF+X_.]ACUTE g@A#CIRCUMF+X_.]ACUTE g$A#CIRCUMF+X_.]GRAVE g@A#CIRCUMF+X_.]GRAVE",
  "g$A#CIRCUMF+X_.]HOOK? g@A#CIRCUMF+X_.]HOOK? g$A#CIRCUMF+X_.]^LDE g@A#CIRCUMF+X_.]^LDE",
  "g$A#CIRCUMF+X_.]DOT_BELOW g@A#CIRCUMF+X_.]DOT_BELOW g$A#B~VE_.]ACUTE g@A#B~VE_.]ACUTE",
  "g$A#B~VE_.]GRAVE g@A#B~VE_.]GRAVE g$A#B~VE_.]HOOK? g@A#B~VE_.]HOOK? g$A#B~VE_.]^LDE",
  "g@A#B~VE_.]^LDE g$A#B~VE_.]DOT_BELOW g@A#B~VE_.]DOT_BELOW g$E#DOT_BELOW g@E#DOT_BELOW",
  "g$E#HOOK? g@E#HOOK? g$E#^LDE g@E#^LDE g$E#CIRCUMF+X_.]ACUTE g@E#CIRCUMF+X_.]ACUTE",
  "g$E#CIRCUMF+X_.]GRAVE g@E#CIRCUMF+X_.]GRAVE g$E#CIRCUMF+X_.]HOOK? g@E#CIRCUMF+X_.]HOOK?",
  "g$E#CIRCUMF+X_.]^LDE g@E#CIRCUMF+X_.]^LDE g$E#CIRCUMF+X_.]DOT_BELOW g@E#CIRCUMF+X_.]DOT_BELOW",
  "g$I#HOOK? g@I#HOOK? g$I#DOT_BELOW g@I#DOT_BELOW g$O#DOT_BELOW g@O#DOT_BELOW g$O#HOOK?",
  "g@O#HOOK? g$O#CIRCUMF+X_.]ACUTE g@O#CIRCUMF+X_.]ACUTE g$O#CIRCUMF+X_.]GRAVE",
  "g@O#CIRCUMF+X_.]GRAVE g$O#CIRCUMF+X_.]HOOK? g@O#CIRCUMF+X_.]HOOK? g$O#CIRCUMF+X_.]^LDE",
  "g@O#CIRCUMF+X_.]^LDE g$O#CIRCUMF+X_.]DOT_BELOW g@O#CIRCUMF+X_.]DOT_BELOW g$O#HORN_.]ACUTE",
  "g@O#HORN_.]ACUTE g$O#HORN_.]GRAVE g@O#HORN_.]GRAVE g$O#HORN_.]HOOK? g@O#HORN_.]HOOK?",
  "g$O#HORN_.]^LDE g@O#HORN_.]^LDE g$O#HORN_.]DOT_BELOW g@O#HORN_.]DOT_BELOW g$U#DOT_BELOW",
  "g@U#DOT_BELOW g$U#HOOK? g@U#HOOK? g$U#HORN_.]ACUTE g@U#HORN_.]ACUTE g$U#HORN_.]GRAVE",
  "g@U#HORN_.]GRAVE g$U#HORN_.]HOOK? g@U#HORN_.]HOOK? g$U#HORN_.]^LDE g@U#HORN_.]^LDE",
  "g$U#HORN_.]DOT_BELOW g@U#HORN_.]DOT_BELOW g$Y#GRAVE g@Y#GRAVE g$Y#DOT_BELOW g@Y#DOT_BELOW",
  "g$Y#HOOK? g@Y#HOOK? g$Y#^LDE g@Y#^LDE g$MIDD+-WELSH_LL g@MIDD+-WELSH_LL g$MIDD+-WELSH_V",
  "g@MIDD+-WELSH_V g$Y#LOOP g@Y#LOOP aG~EK<M%!%PHA#PSILI beDASIA bePSILI_.]V&IA beDASIA_.]V&IA",
  "bePSILI_.]OXIA beDASIA_.]OXIA bePSILI_.]P,ISPOM[I beDASIA_.]P,ISPOM[I g$%PHA#PSILI bgDASIA",
  "bgPSILI_.]V&IA bgDASIA_.]V&IA bgPSILI_.]OXIA bgDASIA_.]OXIA bgPSILI_.]P,ISPOM[I",
  "bgDASIA_.]P,ISPOM[I g@EPSIL;#PSILI bgDASIA bgPSILI_.]V&IA bgDASIA_.]V&IA bgPSILI_.]OXIA",
  "bgDASIA_.]OXIA 1F18=g$EPSIL;#PSILI biDASIA biPSILI_.]V&IA biDASIA_.]V&IA biPSILI_.]OXIA",
  "biDASIA_.]OXIA 1F20=g@ETA#PSILI bcDASIA bcPSILI_.]V&IA bcDASIA_.]V&IA bcPSILI_.]OXIA",
  "bcDASIA_.]OXIA bcPSILI_.]P,ISPOM[I bcDASIA_.]P,ISPOM[I g$ETA#PSILI beDASIA bePSILI_.]V&IA",
  "beDASIA_.]V&IA bePSILI_.]OXIA beDASIA_.]OXIA bePSILI_.]P,ISPOM[I beDASIA_.]P,ISPOM[I",
  "g@IOTA#PSILI bdDASIA bdPSILI_.]V&IA bdDASIA_.]V&IA bdPSILI_.]OXIA bdDASIA_.]OXIA",
  "bdPSILI_.]P,ISPOM[I bdDASIA_.]P,ISPOM[I g$IOTA#PSILI bfDASIA bfPSILI_.]V&IA bfDASIA_.]V&IA",
  "bfPSILI_.]OXIA bfDASIA_.]OXIA bfPSILI_.]P,ISPOM[I bfDASIA_.]P,ISPOM[I g@OMICR;#PSILI bgDASIA",
  "bgPSILI_.]V&IA bgDASIA_.]V&IA bgPSILI_.]OXIA bgDASIA_.]OXIA 1F48=g$OMICR;#PSILI biDASIA",
  "biPSILI_.]V&IA biDASIA_.]V&IA biPSILI_.]OXIA biDASIA_.]OXIA 1F50=g@UPSIL;#PSILI bgDASIA",
  "bgPSILI_.]V&IA bgDASIA_.]V&IA bgPSILI_.]OXIA bgDASIA_.]OXIA bgPSILI_.]P,ISPOM[I",
  "bgDASIA_.]P,ISPOM[I 1F59=g$UPSIL;#DASIA 1F5B=bn_.]V&IA 1F5D=bsOXIA 1F5F=bsP,ISPOM[I",
  "g@OMEGA#PSILI beDASIA bePSILI_.]V&IA beDASIA_.]V&IA bePSILI_.]OXIA beDASIA_.]OXIA",
  "bePSILI_.]P,ISPOM[I beDASIA_.]P,ISPOM[I g$OMEGA#PSILI bgDASIA bgPSILI_.]V&IA bgDASIA_.]V&IA",
  "bgPSILI_.]OXIA bgDASIA_.]OXIA bgPSILI_.]P,ISPOM[I bgDASIA_.]P,ISPOM[I g@%PHA#V&IA beOXIA",
  "tEPSIL;#V&IA bgOXIA uTA#V&IA bcOXIA tIOTA#V&IA bdOXIA tOMICR;#V&IA bgOXIA tUPSIL;#V&IA bgOXIA",
  "tOMEGA#V&IA beOXIA 1F80=t%PHA#PSILI_.]YPOGEGRAMM[I beDASIA_.]YPOGEGRAMM[I",
  "bePSILI_.]V&IA_.]YPOGEGRAMM[I beDASIA_.]V&IA_.]YPOGEGRAMM[I bePSILI_.]OXIA_.]YPOGEGRAMM[I",
  "beDASIA_.]OXIA_.]YPOGEGRAMM[I bePSILI_.]P,ISPOM[I_.]YPOGEGRAMM[I",
  "beDASIA_.]P,ISPOM[I_.]YPOGEGRAMM[I g$%PHA#PSILI_.]PROSGEGRAMM[I bgDASIA_.]PROSGEGRAMM[I",
  "bgPSILI_.]V&IA_.]PROSGEGRAMM[I bgDASIA_.]V&IA_.]PROSGEGRAMM[I bgPSILI_.]OXIA_.]PROSGEGRAMM[I",
  "bgDASIA_.]OXIA_.]PROSGEGRAMM[I bgPSILI_.]P,ISPOM[I_.]PROSGEGRAMM[I",
  "bgDASIA_.]P,ISPOM[I_.]PROSGEGRAMM[I g@ETA#PSILI_.]YPOGEGRAMM[I bcDASIA_.]YPOGEGRAMM[I",
  "bcPSILI_.]V&IA_.]YPOGEGRAMM[I bcDASIA_.]V&IA_.]YPOGEGRAMM[I bcPSILI_.]OXIA_.]YPOGEGRAMM[I",
  "bcDASIA_.]OXIA_.]YPOGEGRAMM[I bcPSILI_.]P,ISPOM[I_.]YPOGEGRAMM[I",
  "bcDASIA_.]P,ISPOM[I_.]YPOGEGRAMM[I g$ETA#PSILI_.]PROSGEGRAMM[I beDASIA_.]PROSGEGRAMM[I",
  "bePSILI_.]V&IA_.]PROSGEGRAMM[I beDASIA_.]V&IA_.]PROSGEGRAMM[I bePSILI_.]OXIA_.]PROSGEGRAMM[I",
  "beDASIA_.]OXIA_.]PROSGEGRAMM[I bePSILI_.]P,ISPOM[I_.]PROSGEGRAMM[I",
  "beDASIA_.]P,ISPOM[I_.]PROSGEGRAMM[I g@OMEGA#PSILI_.]YPOGEGRAMM[I beDASIA_.]YPOGEGRAMM[I",
  "bePSILI_.]V&IA_.]YPOGEGRAMM[I beDASIA_.]V&IA_.]YPOGEGRAMM[I bePSILI_.]OXIA_.]YPOGEGRAMM[I",
  "beDASIA_.]OXIA_.]YPOGEGRAMM[I bePSILI_.]P,ISPOM[I_.]YPOGEGRAMM[I",
  "beDASIA_.]P,ISPOM[I_.]YPOGEGRAMM[I g$OMEGA#PSILI_.]PROSGEGRAMM[I bgDASIA_.]PROSGEGRAMM[I",
  "bgPSILI_.]V&IA_.]PROSGEGRAMM[I bgDASIA_.]V&IA_.]PROSGEGRAMM[I bgPSILI_.]OXIA_.]PROSGEGRAMM[I",
  "bgDASIA_.]OXIA_.]PROSGEGRAMM[I bgPSILI_.]P,ISPOM[I_.]PROSGEGRAMM[I",
  "bgDASIA_.]P,ISPOM[I_.]PROSGEGRAMM[I g@%PHA#VRACHY beMACR; beV&IA_.]YPOGEGRAMM[I beYPOGEGRAMM[I",
  "beOXIA_.]YPOGEGRAMM[I 1FB6=beP,ISPOM[I bp_.]YPOGEGRAMM[I g$%PHA#VRACHY bgMACR; bgV&IA bgOXIA",
  "bgPROSGEGRAMM[I gKOR;IS gPROSGEGRAMM[I hSILI h,ISPOM[I gDI%Y^KA_.]P,ISPOM[I",
  "g@ETA#V&IA_.]YPOGEGRAMM[I bcYPOGEGRAMM[I bcOXIA_.]YPOGEGRAMM[I 1FC6=bcP,ISPOM[I",
  "bn_.]YPOGEGRAMM[I g$EPSIL;#V&IA biOXIA wTA#V&IA beOXIA bePROSGEGRAMM[I gPSILI_.]V&IA qOXIA",
  "qP,ISPOM[I g@IOTA#VRACHY bdMACR; bdDI%Y^KA_.]V&IA brOXIA 1FD6=bdP,ISPOM[I",
  "bdDI%Y^KA_.]P,ISPOM[I g$IOTA#VRACHY bfMACR; bfV&IA bfOXIA 1FDD=gDASIA_.]V&IA qOXIA qP,ISPOM[I",
  "g@UPSIL;#VRACHY bgMACR; bgDI%Y^KA_.]V&IA buOXIA tRHO#PSILI bcDASIA tUPSIL;#P,ISPOM[I",
  "bgDI%Y^KA_.]P,ISPOM[I g$UPSIL;#VRACHY biMACR; biV&IA biOXIA vRHO#DASIA gDI%Y^KA_.]V&IA uOXIA",
  "gV&IA 1FF2=g@OMEGA#V&IA_.]YPOGEGRAMM[I beYPOGEGRAMM[I beOXIA_.]YPOGEGRAMM[I 1FF6=beP,ISPOM[I",
  "bp_.]YPOGEGRAMM[I g$OMICR;#V&IA biOXIA xEGA#V&IA bgOXIA bgPROSGEGRAMM[I gOXIA gDASIA",
  "2000=a[_QUAD bM_QUAD bN<PACE bM<PACE aTH~E-P,-EM<PACE aFOUR-P,-EM<PACE aSIX-P,-EM<PACE",
  "aFIGU~<PACE aPUNCTUA^;<PACE aTH*<PACE aHAIR<PACE aZ,O_WIDTH<PACE lN;-JO*, lJO*, a+FT-TO-R(_M&K",
  "aR(-TO-+FT_M&K aHYPH[ aN;-B~AK*G_HYPH[ aFIGU~_DASH a[_DASH bM_DASH aHORIZ;T%_B&",
  "aDOUB+_V,^C%_L*E hLOW_L*E a+FT<*G+_QUOTA^;_M&K aR(<*G+_QUOTA^;_M&K aS*G+_LOW-9_QUOTA^;_M&K",
  "hHIGH-~V,SED-9_QUOTA^;_M&K a+FT_DOUB+_QUOTA^;_M&K aR(_DOUB+_QUOTA^;_M&K",
  "aDOUB+_LOW-9_QUOTA^;_M&K hHIGH-~V,SED-9_QUOTA^;_M&K bAGG, bOUB+_DAGG, aBUL+T aTRI.GUL&_BUL+T",
  "a;E_DOT_+AD, aTWO_DOT_+AD, aHORIZ;T%_ELLIPSIS bYPH[A^;_PO*T aL*E<EP&ATOR aP&AGRAPH<EP&ATOR",
  "a+FT-TO-R(_EMBEDD*G aR(-TO-+FT_EMBEDD*G aPOP_DI~C^;%)ATT*G a+FT-TO-R(_OV,RIDE",
  "aR(-TO-+FT_OV,RIDE aN&ROW_NO-B~AK<PACE aP,_MIL+<IGN eT[_THOUS.D<IGN bRIME aDOUB+_PRIME",
  "aTRIP+_PRIME a~V,SE]PRIME jDOUB+_PRIME jTRIP+_PRIME aC&ET aS*G+_+FT-PO*T*G_.G+_QUOTA^;_M&K",
  "hR(-PO*T*G_.G+_QUOTA^;_M&K a~F,[CE_M&K aDOUB+_EXCLAMA^;_M&K a*T,ROB.G aOV,L*E aUND,^E",
  "aCH&ACT,_^E b&ET_*S,^;_PO*T aAST,ISM aHYPH[_BUL+T aFRAC^;<LASH a+FT<QU&E_BRACKET#QUILL",
  "aR(<QU&E_BRACKET#QUILL aDOUB+_QUES^;_M&K aQUES^;_EXCLAMA^;_M&K aEXCLAMA^;_QUES^;_M&K",
  "a^R;I.<IGN_ET a~V,SE]PILCROW<IGN aBLACK_+FT|_BUL+T gR(|_BUL+T aLOW_AST,ISK a~V,SED<EMICOL;",
  "aCLOSE_UP aTWO_AST,ISKS_%IGNE]V,^C%LY aCOMM,CI%_M*US<IGN aSWUNG_DASH a*V,TE]UND,^E",
  "aFLOW,_PUNCTUA^;_M&K aTH~E_DOT_PUNCTUA^; aQUADRUP+_PRIME aFOUR_DOT_PUNCTUA^;",
  "bIVE_DOT_PUNCTUA^; aTWO_DOT_PUNCTUA^; aFOUR_DOT_M&K aDOTTE]CROSS aTRICOL; aV,^C%_FOUR_DOTS",
  "aMEDIUM_MATHEMA^C%<PACE aWOR]JO*, aFUNC^;_APPLICA^; a*VISIB+_^MES kSEP&ATOR kPLUS",
  "2066=a+FT-TO-R(_ISOLATE aR(-TO-+FT_ISOLATE aFIRST<TR;G_ISOLATE aPOP_DI~C^;%_ISOLATE",
  "a*HIBIT<YMMETRIC<WAPP*G aAC^VATE<YMMETRIC<WAPP*G a*HIBIT_&ABIC)<HAP*G aAC^VATE_&ABIC)<HAP*G",
  "aNA^;%_DIGIT<HAPES bOM*%_DIGIT<HAPES aSUP,SCRIPT_Z,O mLAT*<M%!I 2074=mFOUR nIVE mSIX nEV[ mE(",
  "mN*E mPLUS<IGN mM*US mEQU%S<IGN m+FT_P&[THESIS mR(_P&[THESIS mLAT*<M%!N cBSCRIPT_Z,O k;E kTWO",
  "lH~E kFOUR lIVE kSIX lEV[ kE( kN*E kPLUS<IGN kM*US kEQU%S<IGN k+FT_P&[THESIS kR(_P&[THESIS",
  "2090=aLAT*<UBSCRIPT<M%!A bdE bdO bdX bdSCHWA bdH bdK bdL bdM bdN bdP bdS bdT",
  "20A0=aEURO-CURR[CY<IGN aCOL;<IGN bRUZEIRO<IGN aFR[CH_FR.C<IGN aLIRA<IGN aMILL<IGN aNAIRA<IGN",
  "aPESETA<IGN aRUPEE<IGN aW;<IGN aNEW<HEQEL<IGN aD;G<IGN aEURO<IGN aKIP<IGN aTUGRIK<IGN",
  "aDRACHMA<IGN aG,M._P[NY<IGN aPESO<IGN aGU&.I<IGN aAUSTR%<IGN aHRYVNIA<IGN aCEDI<IGN",
  "aLIV~_TOURNOIS<IGN aSPESMILO<IGN aT[GE<IGN a*DI._RUPEE<IGN aTURKISH_LIRA<IGN aNORDIC_M&K<IGN",
  "aM.AT<IGN aRUB+<IGN aL&I<IGN aBITCO*<IGN aSOM<IGN 20D0=aCOMB**G_+FT_H&PO;? kR(_H&PO;?",
  "kL;G_V,^C%_L*E_OV,LAY kSHORT_V,^C%_L*E_OV,LAY k.^CLOCKWISE:? kCLOCKWISE:? k+FT:? kR(:?",
  "mNG_OV,LAY kCLOCKWISE_R*G_OV,LAY k.^CLOCKWISE_R*G_OV,LAY kTH~E_DOTS? kFOUR_DOTS?",
  "k[CLOS*G_CIRC+ uSQU&E uDIAM;D uCIRC+_BACKSLASH k+FT_R(:? k[CLOS*G<C~[ uKEYCAP",
  "uUPW&]PO*T*G_TRI.G+ k~V,SE<OLIDUS_OV,LAY kDOUB+_V,^C%<TROKE_OV,LAY k.NUITY<YMBOL",
  "kTRIP+_UND,DOT kWIDE_BRIDGE? k+FT|:_OV,LAY l;G_DOUB+<OLIDUS_OV,LAY kR(|_H&PO;#B&B_DOWN|",
  "k+FT|_H&PO;#B&B_DOWN| o:_BELOW kR(:_BELOW kAST,ISK? 2100=aACCOUNT_OF bDD~SSE]TO_THE<UBJECT",
  "aDOUB+-STRUCK_CAPIT%_C bEG~E_CELSIUS aC[T~_L*E<YMBOL b&E_OF cDA_UNA aEU+R_C;ST.T aSCRUP+",
  "aDEG~E_FAHR[HEIT aSCRIPT<M%L_G hCAPIT%_H aBLACK-+TT,_CAPIT%_H aDOUB+-STRUCK_CAPIT%_H",
  "aPL.CK_C;ST.T p_OV,_TWO_PI aSCRIPT_CAPIT%_I aBLACK-+TT,_CAPIT%_I aSCRIPT_CAPIT%_L hSM%L_L",
  "aL_B_B&<YMBOL aDOUB+-STRUCK_CAPIT%_N aNUM,O<IGN aSOUN]~CORD*G_COPYR( bCRIPT_CAPIT%_P",
  "aDOUB+-STRUCK_CAPIT%_P wQ aSCRIPT_CAPIT%_R aBLACK-+TT,_CAPIT%_R aDOUB+-STRUCK_CAPIT%_R",
  "aP~SCRIP^;_TAKE a~SP;SE aS,VICE_M&K aTE+PH;E<IGN bRADE_M&K<IGN aV,SIC+ aDOUB+-STRUCK_CAPIT%_Z",
  "aOUNCE<IGN bHM<IGN a*V,TE]OHM<IGN aBLACK-+TT,_CAPIT%_Z aTURNE]G~EK<M%!IOTA aKELV*<IGN",
  "a.GSTROM<IGN aSCRIPT_CAPIT%_B aBLACK-+TT,_CAPIT%_C aES^MATED<YMBOL aSCRIPT<M%L_E hCAPIT%_E pF",
  "aTURNE]CAPIT%_F aSCRIPT_CAPIT%_M hSM%L_O a%EF<YMBOL aBET<YMBOL aGIMEL<YMBOL aD%ET<YMBOL",
  "a*FORMA^;<OURCE aROTATE]CAPIT%_Q aFACSIMI+<IGN aDOUB+-STRUCK<M%L_PI uGAMMA oCAPIT%_GAMMA wPI",
  "oN-&Y<UMMA^; aTURNED<.S-S,IF_CAPIT%_G baL a~V,SED<.S-S,IF_CAPIT%_L aTURNED<.S-S,IF_CAPIT%_Y",
  "aDOUB+-STRUCK_IT%IC_CAPIT%_D vSM%L_D bbE bbI bbJ aPROP,TY_L*E aTURNE]AMP,S.D aP,<IGN",
  "aAK^ESELSKAB aTURNED<M%L_F aSYMBOL_FOR<AM&IT.<OURCE aVULG&_FRAC^;_;E<EV[TH uN*TH uT[TH vHIRD",
  "qTWO_THIRDS q;E_FIFTH qTWO_FIFTHS rH~E_FIFTHS qFOUR_FIFTHS q;E<IXTH qFIVE<IXTHS q;E_E(H",
  "qTH~E_E(HS qFIVE_E(HS qSEV[_E(HS aFRAC^;_NUM,ATOR_;E aROM._NUM,%_;E oTWO pH~E oFOUR pIVE oSIX",
  "pEV[ oE( oN*E oT[ oE+V[ oTWELVE oFIFTY o;E_HUND~D oFIVE_HUND~D o;E_THOUS.D aSM%L_ROM._NUM,%_;E",
  "uTWO vH~E uFOUR vIVE uSIX vEV[ uE( uN*E uT[ uE+V[ uTWELVE uFIFTY u;E_HUND~D uFIVE_HUND~D",
  "u;E_THOUS.D aROM._NUM,%_;E_THOUS.]C_D oFIVE_THOUS.D oT[_THOUS.D o~V,SE];E_HUND~D",
  "aLAT*<M%!~V,SE]C aROM._NUM,%<IX_LATE) oFIFTY_E&LY) uTHOUS.D o;E_HUND~]THOUS.D",
  "aVULG&_FRAC^;_Z,O_THIRDS aTURNE]DIGIT_TWO oH~E 2190=a+FT|: aUP|: aR(|: aDOWN|: a+FT_R(:",
  "aUP_DOWN: aNORTH_WEST: gEAST: aSOUTH_EAST: gWEST: a+FT|:#STROKE aR(|:#STROKE a+FT|_WAVE:",
  "aR(|_WAVE: a+FT|_TWO_HEADED: aUP|_TWO_HEADED: aR(|_TWO_HEADED: aDOWN|_TWO_HEADED: a+FT|:#TAIL",
  "aR(|:#TAIL a+FT|:_FROM_B& aUP|:_FROM_B& aR(|:_FROM_B& aDOWN|:_FROM_B& aUP_DOWN:#BASE",
  "a+FT|:#HOOK aR(|:#HOOK a+FT|:#LOOP aR(|:#LOOP a+FT_R(_WAVE: l&ROW#STROKE aDOWN|_ZIGZAG:",
  "aUP|:#^P_+FT| xR(| aDOWN|:#^P_+FT| zR(| aR(|:#CORN,_DOWN| aDOWN|:#CORN,_+FT|",
  "a.^CLOCKWISE_TOP<EMICIRC+: aCLOCKWISE_TOP<EMICIRC+: aNORTH_WEST:_TO_L;G_B&",
  "a+FT|:_TO_B&_OV,_R(|:_TO_B& a.^CLOCKWISE_OP[_CIRC+: aCLOCKWISE_OP[_CIRC+: a+FT|_H&PO;#B&B_UP|",
  "bcDOWN| aUP|_H&PO;#B&B_R(| ba+FT| aR(|_H&PO;#B&B_UP| bdDOWN| aDOWN|_H&PO;#B&B_R(| bc+FT|",
  "aR(|:_OV,_+FT|: aUP|:_+FT|_OF_DOWN|: a+FT|:_OV,_R(|: kPAI~D:S aUP|_PAI~D:S aR(|_PAI~D:S",
  "aDOWN|_PAI~D:S a+FT|_H&PO;_OV,_R(|_H&PO; aR(|_H&PO;_OV,_+FT|_H&PO; a+FT|_DOUB+:#STROKE",
  "e_R(_DOUB+:#STROKE aR(|_DOUB+:#STROKE a+FT|_DOUB+: aUP|_DOUB+: aR(|_DOUB+: aDOWN|_DOUB+:",
  "a+FT_R(_DOUB+: aUP_DOWN_DOUB+: aNORTH_WEST_DOUB+: gEAST_DOUB+: aSOUTH_EAST_DOUB+: gWEST_DOUB+:",
  "a+FT|_TRIP+: aR(|_TRIP+: a+FT|<QUIGG+: aR(|<QUIGG+: aUP|:#DOUB+<TROKE aDOWN|:#DOUB+<TROKE",
  "a+FT|_DASHED: aUP|_DASHED: aR(|_DASHED: aDOWN|_DASHED: a+FT|:_TO_B& aR(|:_TO_B& a+FT|_WHITE:",
  "aUP|_WHITE: aR(|_WHITE: aDOWN|_WHITE: aUP|_WHITE:_FROM_B& u;_PEDEST% bf#HORIZ;T%_B& blV,^C%_B&",
  "oDOUB+: ba_;_PEDEST% aR(|_WHITE:_FROM_W%L aNORTH_WEST:_TO_CORN, aSOUTH_EAST:_TO_CORN,",
  "aUP_DOWN_WHITE: aR(:#SM%L_CIRC+ aDOWN|:_+FT|_OF_UP|: aTH~E_R(|:S a+FT|:#V,^C%<TROKE"]

/-- Names from code point 21F8 on. -/
def namesFrom21F8 : List String := [
  "aR(|:#V,^C%<TROKE a+FT_R(:#V,^C%<TROKE e|:#DOUB+_V,^C%<TROKE aR(|:#DOUB+_V,^C%<TROKE",
  "a+FT_R(:#DOUB+_V,^C%<TROKE e|_OP[-HEADED: aR(|_OP[-HEADED: a+FT_R(_OP[-HEADED: aFOR_%L",
  "aCOMP+M[T aP&^%_DIFF,[^% aTH,E_EXISTS gDOES_NOT_EXIST aEMPTY<ET a*C~M[T aNABLA aE+M[T_OF",
  "aNOT_._E+M[T_OF aSM%L_E+M[T_OF aC;TA*S_AS_MEMB, aDOES_NOT_C;TA*_AS_MEMB, aSM%L_C;TA*S_AS_MEMB,",
  "a[]OF_PROOF aN-&Y_PRODUCT gCOPRODUCT gSUMMA^; aM*US<IGN f-OR-PLUS<IGN aDOT_PLUS bIVISI;<LASH",
  "aSET_M*US aAST,ISK_OP,ATOR aR*G_OP,ATOR aBUL+T_OP,ATOR aSQU&E_ROOT aCUBE_ROOT aFOURTH_ROOT",
  "aPROPOR^;%_TO a*F*ITY aR(_.G+ a.G+ aMEASU~].G+ aSPH,IC%_.G+ aDIVIDES bOES_NOT_DIVIDE aP&%+L_TO",
  "aNOT_P&%+L_TO aLOGIC%_.D iOR a*T,SEC^; aUNI; a*TEGR% aDOUB+_*TEGR% aTRIP+_*TEGR%",
  "aC;TOUR_*TEGR% aSURFACE_*TEGR% aVOLUME_*TEGR% aCLOCKWISE_*TEGR% kC;TOUR_*TEGR%",
  "a.^CLOCKWISE_C;TOUR_*TEGR% aTH,EFO~ aBECAUSE aRA^O aPROPOR^; aDOT_M*US aEXCESS",
  "aGEOMETRIC_PROPOR^; aHOMOTHE^C a^LDE_OP,ATOR a~V,SE]^LDE a*V,TE]LAZY< aS*E_WAVE aW~ATH_PRODUCT",
  "aNOT_^LDE aM*US_^LDE aASYMPTO^C%LY_EQU%_TO aNOT_ASYMPTO^C%LY_EQU%_TO aAPPROXIMATELY_EQU%_TO",
  "oBUT_NOT_ACTU%LY_EQU%_TO aNEITH,_APPROXIMATELY_NOR_ACTU%LY_EQU%_TO a%MOST_EQU%_TO",
  "aNOT_%MOST_EQU%_TO a%MOST_EQU%_OR_EQU%_TO aTRIP+_^LDE a%L_EQU%_TO aEQUIV%[T_TO",
  "aGEOMETRIC%LY_EQUIV%[T_TO aDIFF,[CE_BETWE[ aAPPROACHES_THE_LIMIT aGEOMETRIC%LY_EQU%_TO",
  "aAPPROXIMATELY_EQU%_TO_OR_THE_IMAGE_OF aIMAGE_OF_OR_APPROXIMATELY_EQU%_TO aCOL;_EQU%S",
  "aEQU%S_COL; aR*G_*_EQU%_TO fEQU%_TO aCOR~SP;DS_TO aES^MATES bQUI.GUL&_TO aST&_EQU%S",
  "aDELTA_EQU%_TO aEQU%_TO_BY_DEF*I^; aMEASU~]BY aQUES^;E]EQU%_TO aNOT_EQU%_TO aID[^C%_TO",
  "aNOT_ID[^C%_TO aSTRICTLY_EQUIV%[T_TO a+SS-TH._OR_EQU%_TO aG~AT,-TH._OR_EQU%_TO",
  "a+SS-TH._OV,_EQU%_TO aG~AT,-TH._OV,_EQU%_TO a+SS-TH._BUT_NOT_EQU%_TO",
  "aG~AT,-TH._BUT_NOT_EQU%_TO aMUCH_+SS-TH. fG~AT,-TH. aBETWE[ aNOT_EQUIV%[T_TO e+SS-TH.",
  "eG~AT,-TH. bEITH,_+SS-TH._NOR_EQU%_TO iG~AT,-TH._NOR_EQU%_TO a+SS-TH._OR_EQUIV%[T_TO",
  "aG~AT,-TH._OR_EQUIV%[T_TO aNEITH,_+SS-TH._NOR_EQUIV%[T_TO iG~AT,-TH._NOR_EQUIV%[T_TO",
  "a+SS-TH._OR_G~AT,-TH. aG~AT,-TH._OR_+SS-TH. aNEITH,_+SS-TH._NOR_G~AT,-TH.",
  "iG~AT,-TH._NOR_+SS-TH. aP~CEDES aSUCCEEDS aP~CEDES_OR_EQU%_TO aSUCCEEDS_OR_EQU%_TO",
  "aP~CEDES_OR_EQUIV%[T_TO aSUCCEEDS_OR_EQUIV%[T_TO aDOES_NOT_P~CEDE jSUCCEED aSUBSET_OF",
  "cP,SET_OF aNOT_A<UBSET_OF iP,SET_OF aSUBSET_OF_OR_EQU%_TO cP,SET_OF_OR_EQU%_TO",
  "aNEITH,_A<UBSET_OF_NOR_EQU%_TO mP,SET_OF_NOR_EQU%_TO aSUBSET_OF#NOT_EQU%_TO",
  "cP,SET_OF#NOT_EQU%_TO aMUL^SET i_MUL^PLICA^; jUNI; aSQU&E_IMAGE_OF hORIG*%_OF",
  "hIMAGE_OF_OR_EQU%_TO hORIG*%_OF_OR_EQU%_TO hCAP iUP aCIRC+]PLUS iM*US i^MES iDIVISI;<LASH",
  "jOT_OP,ATOR iR*G_OP,ATOR iAST,ISK_OP,ATOR iEQU%S iDASH aSQU&E]PLUS iM*US i^MES iDOT_OP,ATOR",
  "aR(_TACK a+FT_TACK aDOWN_TACK aUP_TACK aASS,^; aMODELS aTRUE aFORCES",
  "aTRIP+_V,^C%_B&_R(_TURNS^+ aDOUB+_V,^C%_B&_DOUB+_R(_TURNS^+ cES_NOT_PROVE aNOT_TRUE",
  "aDOES_NOT_FORCE aNEGATE]DOUB+_V,^C%_B&_DOUB+_R(_TURNS^+ aP~CEDES_UND,_~LA^;",
  "aSUCCEEDS_UND,_~LA^; aNORM%<UBGROUP_OF aC;TA*S_AS_NORM%<UBGROUP aNORM%<UBGROUP_OF_OR_EQU%_TO",
  "aC;TA*S_AS_NORM%<UBGROUP_OR_EQU%_TO aORIG*%_OF aIMAGE_OF aMUL^MAP aH,MI^._C;JUGATE_MATRIX",
  "a*T,C%ATE aXOR aN.D bOR aR(_.G+#&C gTRI.G+ aN-&Y_LOGIC%_.D oOR g*T,SEC^; gUNI; aDIAM;]OP,ATOR",
  "bOT_OP,ATOR aST&_OP,ATOR aDIVISI;_^MES aBOW^E a+FT_NORM%_FACTOR<EMIDI~CT_PRODUCT",
  "aR(_NORM%_FACTOR<EMIDI~CT_PRODUCT a+FT<EMIDI~CT_PRODUCT aR(<EMIDI~CT_PRODUCT bEV,SE]^LDE_EQU%S",
  "aCURLY_LOGIC%_OR o.D aDOUB+<UBSET jP,SET h*T,SEC^; hUNI; aPITCHFORK aEQU%_.]P&%+L_TO",
  "a+SS-TH.#DOT aG~AT,-TH.#DOT aV,Y_MUCH_+SS-TH. kG~AT,-TH. a+SS-TH._EQU%_TO_OR_G~AT,-TH.",
  "aG~AT,-TH._EQU%_TO_OR_+SS-TH. aEQU%_TO_OR_+SS-TH. mG~AT,-TH. mP~CEDES mSUCCEEDS",
  "aDOES_NOT_P~CEDE_OR_EQU% jSUCCEE]OR_EQU% aNOT<QU&E_IMAGE_OF_OR_EQU%_TO lORIG*%_OF_OR_EQU%_TO",
  "aSQU&E_IMAGE_OF_OR_NOT_EQU%_TO hORIG*%_OF_OR_NOT_EQU%_TO a+SS-TH._BUT_NOT_EQUIV%[T_TO",
  "aG~AT,-TH._BUT_NOT_EQUIV%[T_TO aP~CEDES_BUT_NOT_EQUIV%[T_TO aSUCCEEDS_BUT_NOT_EQUIV%[T_TO",
  "aNOT_NORM%<UBGROUP_OF aDOES_NOT_C;TA*_AS_NORM%<UBGROUP aNOT_NORM%<UBGROUP_OF_OR_EQU%_TO",
  "aDOES_NOT_C;TA*_AS_NORM%<UBGROUP_OR_EQU% aV,^C%_ELLIPSIS aMIDL*E_HORIZ;T%_ELLIPSIS",
  "aUP_R(_DIAG;%_ELLIPSIS aDOWN_R(_DIAG;%_ELLIPSIS aE+M[T_OF#L;G_HORIZ;T%<TROKE",
  "qV,^C%_B&_AT_[]OF_HORIZ;T%<TROKE aSM%L_E+M[T_OF#V,^C%_B&_AT_[]OF_HORIZ;T%<TROKE aE+M[T_OF#DOT?",
  "qOV,B& aSM%L_E+M[T_OF#OV,B& aE+M[T_OF#UND,B& qTWO_HORIZ;T%<TROKES aC;TA*S#L;G_HORIZ;T%<TROKE",
  "oV,^C%_B&_AT_[]OF_HORIZ;T%<TROKE aSM%L_C;TA*S#V,^C%_B&_AT_[]OF_HORIZ;T%<TROKE aC;TA*S#OV,B&",
  "aSM%L_C;TA*S#OV,B& aZ_NOTA^;_BAG_MEMB,SHIP aDIAMET,<IGN aE+CTRIC: aHOUSE aUP:HEAD aDOWN:HEAD",
  "aPROJEC^VE b,SPEC^VE aWAVY_L*E a+FT_CEIL*G aR(_CEIL*G a+FT_FLOOR aR(_FLOOR aBOTTOM_R(_CROP",
  "h+FT_CROP aTOP_R(_CROP e+FT_CROP a~V,SE]NOT<IGN aSQU&E_LOZ[GE a&C aSEGM[T cCTOR",
  "aTE+PH;E_~CORD, aPOSI^;_*DICATOR aVIEWDATA<QU&E aPLACE_OF_*T,EST<IGN aTURNE]NOT<IGN aWATCH",
  "aHOURGLASS aTOP_+FT_CORN, eR(_CORN, aBOTTOM_+FT_CORN, hR(_CORN, aTOP_H%F_*TEGR%",
  "aBOTTOM_H%F_*TEGR% aFROWN aSMI+ aUP:HEA]BETWE[_TWO_HORIZ;T%_B&S aOP^;_KEY a,ASE_TO_THE_R(",
  "aX_*_A_~CT.G+_BOX aKEYBO&D a+FT-PO*T*G_.G+_BRACKET aR(-PO*T*G_.G+_BRACKET a,ASE_TO_THE_+FT",
  "aB[Z[E_R*G aCYL*DRICITY a%L_&OUND-PROFI+ aSYMMETRY aTOT%_RUNOUT aDIM[SI;_ORIG* aC;IC%_TAP,",
  "aSLOPE aCOUNT,BO~ hS*K aAPL_FUNC^;%<YMBOL_I-BEAM wSQUISH_QUAD wQUA]EQU% bbDIVIDE bdAM;D bbJOT",
  "bbCIRC+ wCIRC+<^+ bdJOT wSLASH_B& wBACKSLASH_B& wQUAD<LASH bbBACKSLASH bb+SS-TH. bbG~AT,-TH.",
  "w+FT|_V.E wR(|_V.E wQUA]+FT|: bbR(|: wCIRC+_BACKSLASH wDOWN_TACK_UND,B& xELTA<^+",
  "wQUA]DOWN_C&ET bcELTA wDOWN_TACK_JOT wUP|_V.E wQUA]UP|: wUP_TACK_OV,B& wDEL<^+ wQUA]UP_C&ET",
  "bbDEL wUP_TACK_JOT wDOWN|_V.E wQUA]DOWN|: yOTE_UND,B& wDELTA_UND,B& xIAM;]UND,B& wJOT_UND,B&",
  "wCIRC+_UND,B& wUP<HOE_JOT wQUOTE_QUAD wCIRC+<T& wQUA]COL; wUP_TACK_DIA,ESIS wDEL_DIA,ESIS",
  "wST&_DIA,ESIS wJOT_DIA,ESIS wCIRC+_DIA,ESIS wDOWN<HOE<^+ w+FT<HOE<^+ w^LDE_DIA,ESIS",
  "wG~AT,-TH._DIA,ESIS wCOMMA_B& wDEL_^LDE wZILDE wS^+_^LDE xEMICOL;_UND,B& wQUA]NOT_EQU%",
  "bbQUES^; wDOWN_C&ET_^LDE wUP_C&ET_^LDE wIOTA wRHO wOMEGA w%PHA_UND,B& wEPSIL;_UND,B&",
  "wIOTA_UND,B& wOMEGA_UND,B& w%PHA aNOT_CHECK_M&K aR(_.G+#DOWN|_ZIGZAG: aSHOULD,E]OP[_BOX",
  "aBELL<YMBOL aV,^C%_L*E#MIDD+_DOT a*S,^;<YMBOL aC;T*UOUS_UND,L*E<YMBOL",
  "aDISC;T*UOUS_UND,L*E<YMBOL aEMPHASIS<YMBOL aCOMPOSI^;<YMBOL aWHITE<QU&E#C[T~_V,^C%_L*E",
  "a[T,<YMBOL a%T,NA^VE_KEY<YMBOL aHELM<YMBOL aCIRC+]HORIZ;T%_B&#NOTCH iTRI.G+_DOWN",
  "aBROK[_CIRC+#NORTHWEST: aUNDO<YMBOL aM;OSTAB+<YMBOL aHYST,ESIS<YMBOL",
  "aOP[-CIRCUIT-OUTPUT_H-TYPE<YMBOL uL-TYPE<YMBOL aPASSIVE-PULL-DOWN-OUTPUT<YMBOL",
  "nUP-OUTPUT<YMBOL aDI~CT_CURR[T<YMBOL)_TWO aSOFTW&E-FUNC^;<YMBOL aAPL_FUNC^;%<YMBOL_QUAD",
  "aDECIM%<EP&ATOR_KEY<YMBOL aP~VIOUS_PAGE aNEXT_PAGE aPR*T<C~[<YMBOL aC+&<C~[<YMBOL",
  "a+FT_P&[THESIS_UPP,_HOOK rEXT[SI; rLOW,_HOOK aR(_P&[THESIS_UPP,_HOOK sEXT[SI; sLOW,_HOOK",
  "a+FT<QU&E_BRACKET_UPP,_CORN, uEXT[SI; uLOW,_CORN, aR(<QU&E_BRACKET_UPP,_CORN, vEXT[SI;",
  "vLOW,_CORN, a+FT_CURLY_BRACKET_UPP,_HOOK tMIDD+_PIECE tLOW,_HOOK aCURLY_BRACKET_EXT[SI;",
  "aR(_CURLY_BRACKET_UPP,_HOOK uMIDD+_PIECE uLOW,_HOOK a*TEGR%_EXT[SI; aHORIZ;T%_L*E_EXT[SI;",
  "aUPP,_+FT_OR_LOW,_R(_CURLY_BRACKET<EC^; gR(_OR_LOW,_+FT_CURLY_BRACKET<EC^; aSUMMA^;_TOP",
  "kBOTTOM aTOP<QU&E_BRACKET aBOTTOM<QU&E_BRACKET v_OV,_TOP<QU&E_BRACKET aRADIC%<YMBOL_BOTTOM",
  "a+FT_V,^C%_BOX_L*E aR(_V,^C%_BOX_L*E aHORIZ;T%<C._L*E-1 v3 v7 v9",
  "aD[^STRY<YMBOL_L(_V,^C%_.]TOP_R( bkBOTTOM_R( bgWITH_CIRC+ xDOWN_.]HORIZ;T%#CIRC+",
  "xUP_.]HORIZ;T%#CIRC+ xV,^C%#TRI.G+ xDOWN_.]HORIZ;T%#TRI.G+ xUP_.]HORIZ;T%#TRI.G+ xV,^C%_.]WAVE",
  "xDOWN_.]HORIZ;T%#WAVE xUP_.]HORIZ;T%#WAVE xDOWN_.]HORIZ;T% xUP_.]HORIZ;T% xV,^C%_.]TOP_+FT",
  "bkBOTTOM_+FT aSQU&E_FOOT a~TURN<YMBOL aEJECT<YMBOL aV,^C%_L*E_EXT[SI; aMETRIC%_B~VE",
  "jL;G_OV,<HORT jSHORT_OV,_L;G jL;G_OV,_TWO<HORTS jTWO<HORTS_OV,_L;G uJO*ED kRISEME kETRASEME",
  "jP[TASEME aE&TH_GROUND aFUSE aTOP_P&[THESIS aBOTTOM_P&[THESIS aTOP_CURLY_BRACKET",
  "aBOTTOM_CURLY_BRACKET aTOP_TORTOISE<HELL_BRACKET aBOTTOM_TORTOISE<HELL_BRACKET",
  "aWHITE_TRAPEZIUM aB[Z[E_R*G#CIRC+ aSTRA(NESS aFLATNESS aAC_CURR[T aE+CTRIC%_*T,SEC^;",
  "aDECIM%_EXP;[T<YMBOL aBLACK_R(-PO*T*G_DOUB+_TRI.G+ g+FT-PO*T*G_DOUB+_TRI.G+",
  "gUP-PO*T*G_DOUB+_TRI.G+ gDOWN-PO*T*G_DOUB+_TRI.G+ gR(-PO*T*G_DOUB+_TRI.G+#V,^C%_B&",
  "g+FT-PO*T*G_DOUB+_TRI.G+#V,^C%_B& gR(-PO*T*G_TRI.G+#DOUB+_V,^C%_B& a%&M_CLOCK aSTOPWATCH",
  "a^M,_CLOCK aHOURGLASS#FLOW*G<.D aBLACK_MEDIUM_+FT-PO*T*G_TRI.G+ nR(-PO*T*G_TRI.G+",
  "nUP-PO*T*G_TRI.G+ nDOWN-PO*T*G_TRI.G+ aDOUB+_V,^C%_B& aBLACK<QU&E_FOR<TOP gCIRC+_FOR_~CORD",
  "aPOW,<YMBOL g;-OFF<YMBOL i<YMBOL gS+EP<YMBOL aOBS,V,_EYE<YMBOL aSYMBOL_FOR_NULL",
  "lST&T_OF_HEAD*G uTEXT l[]OF_TEXT tR.SMISSI; nQUIRY lACKNOW+DGE lBELL mACKSPACE",
  "lHORIZ;T%_TABULA^; lL*E_FEED lV,^C%_TABULA^; lFORM_FEED lC&RIAGE_~TURN lSHIFT_OUT r*",
  "lDATA_L*K_ESCAPE mEVICE_C;TROL_;E baTWO bbH~E baFOUR lNEGA^VE_ACKNOW+DGE lSYNCHR;OUS_ID+",
  "l[]OF_TR.SMISSI;_BLOCK lC.CEL l[]OF_MEDIUM lSUBS^TUTE lESCAPE lFI+<EP&ATOR lGROUP<EP&ATOR",
  "l~CORD<EP&ATOR lUNIT<EP&ATOR lSPACE lDE+TE aBL.K<YMBOL aOP[_BOX aSYMBOL_FOR_NEWL*E lDE+TE)_TWO",
  "lSUBS^TUTE)_TWO 2440=aOCR_HOOK eCHAIR eFORK e*V,TE]FORK eBELT_BUCK+ fOW_^E",
  "fR.CH_B.K_ID[^FICA^; eAMOUNT_OF_CHECK eDASH eCUSTOM,_ACCOUNT_NUMB, eDOUB+_BACKSLASH",
  "2460=aCIRC+]DIGIT_;E oTWO pH~E oFOUR pIVE oSIX pEV[ oE( oN*E iNUMB,_T[ pE+V[ pTWELVE qHIRTE[",
  "pFOURTE[ qIFTE[ pSIXTE[ qEV[TE[ pE(E[ pN*ETE[ pTW[TY aP&[THESIZE]DIGIT_;E uTWO vH~E uFOUR vIVE",
  "uSIX vEV[ uE( uN*E oNUMB,_T[ vE+V[ vTWELVE wHIRTE[ vFOURTE[ wIFTE[ vSIXTE[ wEV[TE[ vE(E[",
  "vN*ETE[ vTW[TY aDIGIT_;E_FULL<TOP gTWO_FULL<TOP hH~E_FULL<TOP gFOUR_FULL<TOP hIVE_FULL<TOP",
  "gSIX_FULL<TOP hEV[_FULL<TOP gE(_FULL<TOP gN*E_FULL<TOP aNUMB,_T[_FULL<TOP hE+V[_FULL<TOP",
  "hTWELVE_FULL<TOP iHIRTE[_FULL<TOP hFOURTE[_FULL<TOP iIFTE[_FULL<TOP hSIXTE[_FULL<TOP",
  "iEV[TE[_FULL<TOP hE(E[_FULL<TOP hN*ETE[_FULL<TOP hTW[TY_FULL<TOP aP&[THESIZE]LAT*<M%!A bhB bhC",
  "bhD bhE bhF bhG bhH bhI bhJ bhK bhL bhM bhN bhO bhP bhQ bhR bhS bhT bhU bhV bhW bhX bhY bhZ",
  "aCIRC+]LAT*_$A bdB bdC bdD bdE bdF bdG bdH bdI bdJ bdK bdL bdM bdN bdO bdP bdQ bdR bdS bdT bdU",
  "bdV bdW bdX bdY bdZ o@A bbB bbC bbD bbE bbF bbG bbH bbI bbJ bbK bbL bbM bbN bbO bbP bbQ bbR",
  "bbS bbT bbU bbV bbW bbX bbY bbZ iDIGIT_Z,O aNEGA^VE_CIRC+]NUMB,_E+V[ yTWELVE zHIRTE[ yFOURTE[",
  "zIFTE[ ySIXTE[ zEV[TE[ yE(E[ yN*ETE[ yTW[TY aDOUB+_CIRC+]DIGIT_;E vTWO wH~E vFOUR wIVE vSIX",
  "wEV[ vE( vN*E pNUMB,_T[ aNEGA^VE_CIRC+]DIGIT_Z,O aBOX_DRAW*GS_L(_HORIZ;T% nHEAVY_HORIZ;T%",
  "nL(_V,^C% nHEAVY_V,^C% nL(_TRIP+_DASH_HORIZ;T% nHEAVY_TRIP+_DASH_HORIZ;T% nL(_TRIP+_DASH_V,^C%",
  "nHEAVY_TRIP+_DASH_V,^C% nL(_QUADRUP+_DASH_HORIZ;T% nHEAVY_QUADRUP+_DASH_HORIZ;T%",
  "nL(_QUADRUP+_DASH_V,^C% nHEAVY_QUADRUP+_DASH_V,^C% nL(_DOWN_.]R( nDOWN_L(_.]R(_HEAVY",
  "sHEAVY_.]R(_L( nHEAVY_DOWN_.]R( nL(_DOWN_.]+FT nDOWN_L(_.]+FT_HEAVY sHEAVY_.]+FT_L(",
  "nHEAVY_DOWN_.]+FT nL(_UP_.]R( nUP_L(_.]R(_HEAVY qHEAVY_.]R(_L( nHEAVY_UP_.]R( nL(_UP_.]+FT",
  "nUP_L(_.]+FT_HEAVY qHEAVY_.]+FT_L( nHEAVY_UP_.]+FT nL(_V,^C%_.]R( nV,^C%_L(_.]R(_HEAVY",
  "nUP_HEAVY_.]R(_DOWN_L( nDOWN_HEAVY_.]R(_UP_L( nV,^C%_HEAVY_.]R(_L( nDOWN_L(_.]R(_UP_HEAVY",
  "nUP_L(_.]R(_DOWN_HEAVY nHEAVY_V,^C%_.]R( nL(_V,^C%_.]+FT nV,^C%_L(_.]+FT_HEAVY",
  "nUP_HEAVY_.]+FT_DOWN_L( nDOWN_HEAVY_.]+FT_UP_L( nV,^C%_HEAVY_.]+FT_L( nDOWN_L(_.]+FT_UP_HEAVY",
  "nUP_L(_.]+FT_DOWN_HEAVY nHEAVY_V,^C%_.]+FT nL(_DOWN_.]HORIZ;T% oEFT_HEAVY_.]R(_DOWN_L(",
  "nR(_HEAVY_.]+FT_DOWN_L( nDOWN_L(_.]HORIZ;T%_HEAVY sHEAVY_.]HORIZ;T%_L( nR(_L(_.]+FT_DOWN_HEAVY",
  "n+FT_L(_.]R(_DOWN_HEAVY nHEAVY_DOWN_.]HORIZ;T% nL(_UP_.]HORIZ;T% oEFT_HEAVY_.]R(_UP_L(",
  "nR(_HEAVY_.]+FT_UP_L( nUP_L(_.]HORIZ;T%_HEAVY qHEAVY_.]HORIZ;T%_L( nR(_L(_.]+FT_UP_HEAVY",
  "n+FT_L(_.]R(_UP_HEAVY nHEAVY_UP_.]HORIZ;T% nL(_V,^C%_.]HORIZ;T% oEFT_HEAVY_.]R(_V,^C%_L(",
  "nR(_HEAVY_.]+FT_V,^C%_L( nV,^C%_L(_.]HORIZ;T%_HEAVY nUP_HEAVY_.]DOWN_HORIZ;T%_L(",
  "nDOWN_HEAVY_.]UP_HORIZ;T%_L( nV,^C%_HEAVY_.]HORIZ;T%_L( n+FT_UP_HEAVY_.]R(_DOWN_L(",
  "nR(_UP_HEAVY_.]+FT_DOWN_L( n+FT_DOWN_HEAVY_.]R(_UP_L( nR(_DOWN_HEAVY_.]+FT_UP_L(",
  "nDOWN_L(_.]UP_HORIZ;T%_HEAVY nUP_L(_.]DOWN_HORIZ;T%_HEAVY nR(_L(_.]+FT_V,^C%_HEAVY",
  "n+FT_L(_.]R(_V,^C%_HEAVY nHEAVY_V,^C%_.]HORIZ;T% nL(_DOUB+_DASH_HORIZ;T%",
  "nHEAVY_DOUB+_DASH_HORIZ;T% nL(_DOUB+_DASH_V,^C% nHEAVY_DOUB+_DASH_V,^C% nDOUB+_HORIZ;T% uV,^C%",
  "pWN<*G+_.]R(_DOUB+ sDOUB+_.]R(<*G+ pUB+_DOWN_.]R( pWN<*G+_.]+FT_DOUB+ sDOUB+_.]+FT<*G+",
  "pUB+_DOWN_.]+FT nUP<*G+_.]R(_DOUB+ qDOUB+_.]R(<*G+ nDOUB+_UP_.]R( nUP<*G+_.]+FT_DOUB+",
  "qDOUB+_.]+FT<*G+ nDOUB+_UP_.]+FT nV,^C%<*G+_.]R(_DOUB+ wDOUB+_.]R(<*G+ nDOUB+_V,^C%_.]R(",
  "nV,^C%<*G+_.]+FT_DOUB+ wDOUB+_.]+FT<*G+ nDOUB+_V,^C%_.]+FT pWN<*G+_.]HORIZ;T%_DOUB+",
  "sDOUB+_.]HORIZ;T%<*G+ pUB+_DOWN_.]HORIZ;T% nUP<*G+_.]HORIZ;T%_DOUB+ qDOUB+_.]HORIZ;T%<*G+",
  "nDOUB+_UP_.]HORIZ;T% nV,^C%<*G+_.]HORIZ;T%_DOUB+ wDOUB+_.]HORIZ;T%<*G+ nDOUB+_V,^C%_.]HORIZ;T%",
  "nL(_&C_DOWN_.]R( bg+FT xUP_.]+FT beR( tDIAG;%_UPP,_R(_TO_LOW,_+FT bi+FT_TO_LOW,_R( bcCROSS",
  "t+FT tUP tR( tDOWN nHEAVY_+FT tUP tR( tDOWN nL(_+FT_.]HEAVY_R( tUP_.]HEAVY_DOWN",
  "nHEAVY_+FT_.]L(_R( tUP_.]L(_DOWN aUPP,_H%F_BLOCK aLOW,_;E_E(H_BLOCK kQU&T,_BLOCK",
  "gTH~E_E(HS_BLOCK gH%F_BLOCK gFIVE_E(HS_BLOCK gTH~E_QU&T,S_BLOCK gSEV[_E(HS_BLOCK aFULL_BLOCK",
  "a+FT<EV[_E(HS_BLOCK fTH~E_QU&T,S_BLOCK fFIVE_E(HS_BLOCK fH%F_BLOCK fTH~E_E(HS_BLOCK",
  "f;E_QU&T,_BLOCK jE(H_BLOCK aR(_H%F_BLOCK aL(<HADE aMEDIUM<HADE aD&K<HADE aUPP,_;E_E(H_BLOCK",
  "aR(_;E_E(H_BLOCK aQUADR.T_LOW,_+FT pR( jUPP,_+FT t_.]LOW,_+FT_.]LOW,_R( beR(",
  "yUPP,_R(_.]LOW,_+FT buR( pR( u_.]LOW,_+FT bj_.]LOW,_R( aBLACK<QU&E aWHITE<QU&E m#ROUNDE]CORN,S",
  "nC;TA**G_BLACK<M%L<QU&E aSQU&E#HORIZ;T%_FILL mV,^C%_FILL mORTHOG;%_CROSSHATCH_FILL",
  "mUPP,_+FT_TO_LOW,_R(_FILL sR(_TO_LOW,_+FT_FILL mDIAG;%_CROSSHATCH_FILL aBLACK<M%L<QU&E",
  "aWHITE<M%L<QU&E aBLACK_~CT.G+ aWHITE_~CT.G+ aBLACK_V,^C%_~CT.G+ aWHITE_V,^C%_~CT.G+",
  "aBLACK_P&%+LOGRAM aWHITE_P&%+LOGRAM aBLACK_UP-PO*T*G_TRI.G+ aWHITE_UP-PO*T*G_TRI.G+",
  "aBLACK_UP-PO*T*G<M%L_TRI.G+ aWHITE_UP-PO*T*G<M%L_TRI.G+ aBLACK_R(-PO*T*G_TRI.G+",
  "aWHITE_R(-PO*T*G_TRI.G+ aBLACK_R(-PO*T*G<M%L_TRI.G+ aWHITE_R(-PO*T*G<M%L_TRI.G+",
  "aBLACK_R(-PO*T*G_PO*T, aWHITE_R(-PO*T*G_PO*T, aBLACK_DOWN-PO*T*G_TRI.G+",
  "aWHITE_DOWN-PO*T*G_TRI.G+ aBLACK_DOWN-PO*T*G<M%L_TRI.G+ aWHITE_DOWN-PO*T*G<M%L_TRI.G+",
  "aBLACK_+FT-PO*T*G_TRI.G+ aWHITE_+FT-PO*T*G_TRI.G+ aBLACK_+FT-PO*T*G<M%L_TRI.G+",
  "aWHITE_+FT-PO*T*G<M%L_TRI.G+ aBLACK_+FT-PO*T*G_PO*T, aWHITE_+FT-PO*T*G_PO*T, aBLACK_DIAM;D",
  "aWHITE_DIAM;D n_C;TA**G_BLACK<M%L_DIAM;D aFISHEYE aLOZ[GE aWHITE_CIRC+ aDOTTE]CIRC+",
  "aCIRC+#V,^C%_FILL aBULLSEYE bLACK_CIRC+ aCIRC+#+FT_H%F_BLACK mR(_H%F_BLACK mLOW,_H%F_BLACK",
  "mUPP,_H%F_BLACK sR(_QUADR.T_BLACK m%L_BUT_UPP,_+FT_QUADR.T_BLACK a+FT_H%F_BLACK_CIRC+",
  "aR(_H%F_BLACK_CIRC+ a*V,SE_BUL+T iWHITE_CIRC+ aUPP,_H%F_*V,SE_WHITE_CIRC+",
  "aLOW,_H%F_*V,SE_WHITE_CIRC+ aUPP,_+FT_QUADR.T_CIRCUL&_&C gR(_QUADR.T_CIRCUL&_&C",
  "aLOW,_R(_QUADR.T_CIRCUL&_&C g+FT_QUADR.T_CIRCUL&_&C aUPP,_H%F_CIRC+ aLOW,_H%F_CIRC+",
  "aBLACK_LOW,_R(_TRI.G+ m+FT_TRI.G+ gUPP,_+FT_TRI.G+ mR(_TRI.G+ aWHITE_BUL+T",
  "aSQU&E#+FT_H%F_BLACK mR(_H%F_BLACK mUPP,_+FT_DIAG;%_H%F_BLACK mLOW,_R(_DIAG;%_H%F_BLACK",
  "aWHITE<QU&E#V,^C%_BISECT*G_L*E gUP-PO*T*G_TRI.G+#DOT aUP-PO*T*G_TRI.G+#+FT_H%F_BLACK",
  "baR(_H%F_BLACK aL&GE_CIRC+ aWHITE<QU&E#UPP,_+FT_QUADR.T sLOW,_+FT_QUADR.T yR(_QUADR.T",
  "sUPP,_R(_QUADR.T gCIRC+#UPP,_+FT_QUADR.T sLOW,_+FT_QUADR.T yR(_QUADR.T sUPP,_R(_QUADR.T",
  "aUPP,_+FT_TRI.G+ gR(_TRI.G+ aLOW,_+FT_TRI.G+ aWHITE_MEDIUM<QU&E aBLACK_MEDIUM<QU&E",
  "aWHITE_MEDIUM<M%L<QU&E aBLACK_MEDIUM<M%L<QU&E aLOW,_R(_TRI.G+ aBLACK<UN#RAYS aCLOUD aUMB~LLA",
  "aSNOWM. aCOMET aBLACK<T& aWHITE<T& aL(N*G aTHUND,STORM aSUN aASC[D*G_NODE aDESC[D*G_NODE",
  "aC;JUNC^; aOPPOSI^; aBLACK_TE+PH;E aWHITE_TE+PH;E aB%LOT_BOX k#CHECK qX aS%^~",
  "aUMB~LLA#RA*_DROPS aHOT_BEV,AGE aWHITE<HOGI_PIECE aBLACK<HOGI_PIECE aSHAMROCK",
  "a~V,SE]ROTATE]FLOR%_HE&T_BUL+T aBLACK_+FT_PO*T*G_*DEX gR(_PO*T*G_*DEX aWHITE_+FT_PO*T*G_*DEX",
  "gUP_PO*T*G_*DEX gR(_PO*T*G_*DEX gDOWN_PO*T*G_*DEX aSKULL_.]CROSSB;ES aCAU^;<IGN",
  "aRADIOAC^VE<IGN aBIOHAZ&D<IGN aCADUCEUS a.KH aORTHODOX_CROSS aCHI_RHO bROSS_OF_LORRA*E",
  "jJ,US%EM aST&_.]C~SC[T aF&SI<YMBOL aADI<HAK^ aHAMM,_.D<ICK+ aPEACE<YMBOL aY*_Y.G",
  "aTRIGRAM_FOR_HEAV[ mLAKE mFI~ mTHUND, mW*D nAT, mMOUNTA* mE&TH aWHEEL_OF_DH&MA",
  "cITE_FROWN*G_FACE gSMIL*G_FACE aBLACK<MIL*G_FACE aWHITE<UN#RAYS aFIRST_QU&T,_MO;",
  "aLAST_QU&T,_MO; aM,CURY aFEM%E<IGN aE&TH aM%E<IGN aJUPIT, aSATURN aUR.US aNEPTUNE aPLUTO a&IES",
  "aTAURUS aGEM*I aC.C, a+O aVIRGO aLIBRA aSCORPIUS bAGITT&IUS aCAPRICORN aAQU&IUS aPISCES",
  "aWHITE_CHESS_K*G mQUE[ mROOK mBISHOP mKN( mPAWN aBLACK_CHESS_K*G mQUE[ mROOK mBISHOP mKN(",
  "mPAWN gSPADE<UIT aWHITE_HE&T<UIT gDIAM;D<UIT aBLACK_CLUB<UIT aWHITE<PADE<UIT aBLACK_HE&T<UIT",
  "gDIAM;D<UIT aWHITE_CLUB<UIT aHOT<PR*GS aQU&T,_NOTE aE(H_NOTE aBEAME]E(H_NOTES hSIXTE[TH_NOTES",
  "aMUSIC_FLAT<IGN gNATUR%<IGN gSH&P<IGN aWEST<YRIAC_CROSS aEAST<YRIAC_CROSS",
  "aUNIV,S%_~CYCL*G<YMBOL a~CYCL*G<YMBOL_FOR_TYPE-1_PLAS^CS ba2_PLAS^CS ba3_PLAS^CS ba4_PLAS^CS",
  "ba5_PLAS^CS ba6_PLAS^CS ba7_PLAS^CS vG[,IC_MAT,I%S aBLACK_UNIV,S%_~CYCL*G<YMBOL",
  "a~CYC+]PAP,<YMBOL aP&^%LY-~CYC+]PAP,<YMBOL b,M.[T_PAP,<IGN aWHEELCHAIR<YMBOL aDIE_FACE-1 j2 j3",
  "j4 j5 j6 aWHITE_CIRC+#DOT_R( sTWO_DOTS aBLACK_CIRC+#WHITE_DOT_R( sTWO_WHITE_DOTS",
  "aM;OGRAM_FOR_Y.G o* aDIGRAM_FOR_G~AT,_Y.G l+SS,_Y* t.G lG~AT,_Y* aWHITE_FLAG aBLACK_FLAG",
  "aHAMM,_.]PICK a.CHOR aCROSSED<WORDS aSTAFF_OF_AESCULAPIUS bC%ES a%EMBIC aFLOW, aGE&",
  "aSTAFF_OF_H,MES aATOM<YMBOL aF+UR-DE-LIS aOUTL*E]WHITE<T& aTH~E_L*ES_C;V,G*G_R( x+FT",
  "aW&N*G<IGN aHIGH_VOLTAGE<IGN aDOUB+]FEM%E<IGN iM%E<IGN a*T,LOCKE]FEM%E_.]M%E<IGN",
  "aM%E_.]FEM%E<IGN fWITH<TROKE<IGN r.]M%E_.]FEM%E<IGN aV,^C%_M%E#STROKE<IGN",
  "aHORIZ;T%_M%E#STROKE<IGN aMEDIUM_WHITE_CIRC+ hBLACK_CIRC+ hSM%L_WHITE_CIRC+ b&RIAGE<YMBOL",
  "aDIVORCE<YMBOL aUNM&RIE]P&TN,SHIP<YMBOL aCOFF* aFUN,%_URN aNEUT, aC,ES aP%LAS aJUNO aVESTA",
  "aCHIR; aBLACK_MO;_LILITH aSEX^+ cMISEX^+ aQU*CUNX aSESQUIQUADRATE bOCC,_B%L aBASEB%L",
  "aSQU&E]KEY aWHITE_DRAUGHTS_M. pK*G aBLACK_DRAUGHTS_M. pK*G aSNOWM._WITHOUT<NOW bUN_BEH*]CLOUD",
  "aRA* aBLACK<NOWM. aTHUND,_CLOU].]RA* bURNE]WHITE<HOGI_PIECE hBLACK<HOGI_PIECE",
  "aWHITE_DIAM;]*<QU&E aCROSS*G_L.ES aDISAB+]C& aOPHIUCHUS aPICK aC&<LID*G aHELMET#WHITE_CROSS",
  "aCIRC+]CROSS*G_L.ES bHA*S aNO_[TRY a%T,NATE_;E-WAY_+FT_WAY_TRAFFIC",
  "aBLACK_TWO-WAY_+FT_WAY_TRAFFIC aWHITE_TWO-WAY_+FT_WAY_TRAFFIC aBLACK_+FT_L.E_M,GE",
  "aWHITE_+FT_L.E_M,GE aDRIVE<LOW<IGN aHEAVY_WHITE_DOWN-PO*T*G_TRI.G+ a+FT_CLOSE][TRY aSQU&ED<%^~",
  "aF%L*G_DIAG;%_*_WHITE_CIRC+_*_BLACK<QU&E aBLACK_TRUCK a~STRICTE]+FT_[TRY-1 w2",
  "aASTR;OMIC%<YMBOL_FOR_UR.US aHEAVY_CIRC+#STROKE_.]TWO_DOTS? aP[TAGRAM",
  "aR(-H.DE]*T,LACE]P[TAGRAM a+FT-H.DE]*T,LACE]P[TAGRAM a*V,TE]P[TAGRAM aBLACK_CROSS_;<HIELD",
  "aSH*TO<HR*E aCHURCH bAST+ aHISTORIC<ITE aGE&_WITHOUT_HUB j_H.D+S aMAP<YMBOL_FOR_L(HOUSE",
  "bOUNTA* aUMB~LLA_;_GROUND aFOUNTA* bLAG_*_HO+ b,RY aSAILBOAT bQU&E_FOUR_CORN,S bKI, aICE<KATE",
  "aP,S;#B%L aT[T aJAP.ESE_B.K<YMBOL aHEADST;E_GRAVEY&D<YMBOL aFUEL_PUMP aCUP_;_BLACK<QU&E",
  "aWHITE_FLAG#HORIZ;T%_MIDD+_BLACK<TRIPE aBLACK<AFETY<CISSORS aUPP,_BLADE<CISSORS aBLACK<CISSORS",
  "aLOW,_BLADE<CISSORS aWHITE<CISSORS gHEAVY_CHECK_M&K aTE+PH;E_LOCA^;<IGN bAPE_DRIVE aAIRPL.E",
  "a[VELOPE aRAISE]FIST hH.D aVICTORY_H.D aWRIT*G_H.D aLOW,_R(_P[CIL aP[CIL aUPP,_R(_P[CIL",
  "aWHITE_NIB aBLACK_NIB aCHECK_M&K aHEAVY_CHECK_M&K aMUL^PLICA^;_X aHEAVY_MUL^PLICA^;_X aB%LOT_X",
  "aHEAVY_B%LOT_X aOUTL*E]G~EK_CROSS aHEAVY_G~EK_CROSS aOP[_C[T~_CROSS aHEAVY_OP[_C[T~_CROSS",
  "aLAT*_CROSS aSHADOWE]WHITE_LAT*_CROSS aOUTL*E]LAT*_CROSS aM%TESE_CROSS aST&_OF_DAVID",
  "aFOUR_TE&DROP-SPOKE]AST,ISK fB%LO;-SPOKE]AST,ISK aHEAVY_FOUR_B%LO;-SPOKE]AST,ISK",
  "aFOUR_CLUB-SPOKE]AST,ISK aBLACK_FOUR_PO*TED<T& aWHITE_FOUR_PO*TED<T& aSP&K+S",
  "bT~SS_OUTL*E]WHITE<T& aCIRC+]WHITE<T& aOP[_C[T~_BLACK<T& aBLACK_C[T~_WHITE<T& aOUTL*E]BLACK<T&",
  "aHEAVY_OUTL*E]BLACK<T& aP*WHEEL<T& aSHADOWE]WHITE<T& aHEAVY_AST,ISK aOP[_C[T~_AST,ISK",
  "aE(<POKE]AST,ISK gPO*TE]BLACK<T& oP*WHEEL<T& aSIX_PO*TE]BLACK<T& aE(_PO*TE]~C^L*E&_BLACK<T&",
  "aHEAVY_E(_PO*TE]~C^L*E&_BLACK<T& aTWELVE_PO*TE]BLACK<T& aSIXTE[_PO*TE]AST,ISK",
  "aTE&DROP-SPOKE]AST,ISK aOP[_C[T~_TE&DROP-SPOKE]AST,ISK aHEAVY_TE&DROP-SPOKE]AST,ISK",
  "aSIX_PET%+]BLACK_.]WHITE_FLO~TTE aBLACK_FLO~TTE aWHITE_FLO~TTE aE(_PET%+]OUTL*E]BLACK_FLO~TTE",
  "aCIRC+]OP[_C[T~_E(_PO*TED<T& aHEAVY_TE&DROP-SPOKE]P*WHEEL_AST,ISK aSNOWFLAKE",
  "aT(_TRIFOLIATE<NOWFLAKE aHEAVY_CHEVR;<NOWFLAKE aSP&K+ aHEAVY<P&K+ aB%LO;-SPOKE]AST,ISK",
  "aE(_TE&DROP-SPOKE]PROPEL+R_AST,ISK aHEAVY_E(_TE&DROP-SPOKE]PROPEL+R_AST,ISK aCROSS_M&K",
  "aSHADOWE]WHITE_CIRC+ aNEGA^VE<QU&E]CROSS_M&K aLOW,_R(_DROP-SHADOWE]WHITE<QU&E",
  "aUPP,_R(_DROP-SHADOWE]WHITE<QU&E aLOW,_R(<HADOWE]WHITE<QU&E aUPP,_R(<HADOWE]WHITE<QU&E",
  "aBLACK_QUES^;_M&K_ORNAM[T aWHITE_QUES^;_M&K_ORNAM[T gEXCLAMA^;_M&K_ORNAM[T",
  "aBLACK_DIAM;]M*US_WHITE_X aHEAVY_EXCLAMA^;_M&K<YMBOL aL(_V,^C%_B& aMEDIUM_V,^C%_B&",
  "aHEAVY_V,^C%_B& gS*G+_TURNE]COMMA_QUOTA^;_M&K_ORNAM[T nCOMMA_QUOTA^;_M&K_ORNAM[T",
  "gDOUB+_TURNE]COMMA_QUOTA^;_M&K_ORNAM[T nCOMMA_QUOTA^;_M&K_ORNAM[T",
  "gLOW<*G+_COMMA_QUOTA^;_M&K_ORNAM[T kDOUB+_COMMA_QUOTA^;_M&K_ORNAM[T",
  "aCURVED<TEM_P&AGRAPH<IGN_ORNAM[T aHEAVY_EXCLAMA^;_M&K_ORNAM[T gHE&T_EXCLAMA^;_M&K_ORNAM[T",
  "gBLACK_HE&T aROTATE]HEAVY_BLACK_HE&T_BUL+T aFLOR%_HE&T aROTATE]FLOR%_HE&T_BUL+T",
  "aMEDIUM_+FT_P&[THESIS_ORNAM[T hR(_P&[THESIS_ORNAM[T hFLATT[E]+FT_P&[THESIS_ORNAM[T",
  "rR(_P&[THESIS_ORNAM[T h+FT-PO*T*G_.G+_BRACKET_ORNAM[T hR(-PO*T*G_.G+_BRACKET_ORNAM[T",
  "aHEAVY_+FT-PO*T*G_.G+_QUOTA^;_M&K_ORNAM[T gR(-PO*T*G_.G+_QUOTA^;_M&K_ORNAM[T",
  "g+FT-PO*T*G_.G+_BRACKET_ORNAM[T gR(-PO*T*G_.G+_BRACKET_ORNAM[T",
  "aL(_+FT_TORTOISE<HELL_BRACKET_ORNAM[T gR(_TORTOISE<HELL_BRACKET_ORNAM[T",
  "aMEDIUM_+FT_CURLY_BRACKET_ORNAM[T hR(_CURLY_BRACKET_ORNAM[T aD*GBAT_NEGA^VE_CIRC+]DIGIT_;E",
  "bfTWO bgH~E bfFOUR bgIVE bfSIX bgEV[ bfE( bfN*E zNUMB,_T[ iCIRC+D<.S-S,IF_DIGIT_;E bhTWO biH~E",
  "bhFOUR biIVE bhSIX biEV[ bhE( bhN*E bbNUMB,_T[ iNEGA^VE_CIRC+D<.S-S,IF_DIGIT_;E bqTWO brH~E",
  "bqFOUR brIVE bqSIX brEV[ bqE( bqN*E bkNUMB,_T[ aHEAVY_WIDE-HEADE]R(|: gPLUS<IGN gM*US<IGN",
  "gDIVISI;<IGN gSOUTH_EAST: gR(|: gNORTH_EAST: aDRAFT*G_PO*T_R(|: aHEAVY_ROUND-^PPE]R(|:",
  "aTRI.G+-HEADE]R(|: aHEAVY_TRI.G+-HEADE]R(|: aDASHE]TRI.G+-HEADE]R(|:",
  "aHEAVY_DASHE]TRI.G+-HEADE]R(|: aBLACK_R(|: aTH~E-]TOP-L(E]R(|:HEAD iBOTTOM-L(E]R(|:HEAD",
  "aBLACK_R(|:HEAD aHEAVY_BLACK_CURVE]DOWN|_.]R(|: tUP|_.]R(|: aSQUAT_BLACK_R(|:",
  "aHEAVY_C;CAVE-PO*TE]BLACK_R(|: aR(-SHADE]WHITE_R(|: a+FT-SHADE]WHITE_R(|:",
  "aBACK-^LTED<HADOWE]WHITE_R(|: aFR;T-^LTED<HADOWE]WHITE_R(|: aHEAVY_LOW,_R(-SHADOWE]WHITE_R(|:",
  "gUPP,_R(-SHADOWE]WHITE_R(|: aNOTCHE]LOW,_R(-SHADOWE]WHITE_R(|: aCURLY_LOOP",
  "aNOTCHE]UPP,_R(-SHADOWE]WHITE_R(|: aCIRC+]HEAVY_WHITE_R(|: aWHITE-FEATH,E]R(|:",
  "aBLACK-FEATH,ED<OUTH_EAST: qR(|: qNORTH_EAST: aHEAVY_BLACK-FEATH,ED<OUTH_EAST: wR(|:",
  "wNORTH_EAST: aTE&DROP-B&BE]R(|: aHEAVY_TE&DROP-SH.KE]R(|: aWEDGE-TAI+]R(|:",
  "aHEAVY_WEDGE-TAI+]R(|: aOP[-OUTL*E]R(|: aDOUB+_CURLY_LOOP aTH~E_DIM[SI;%_.G+",
  "aWHITE_TRI.G+_C;TA**G<M%L_WHITE_TRI.G+ aP,P[DICUL& aOP[<UBSET hP,SET a+FT<-SHAPE]BAG_DELIMIT,",
  "aR(<-SHAPE]BAG_DELIMIT, aOR#DOT_*SIDE a~V,SE<OLIDUS_P~CED*G<UBSET aSUP,SET_P~CED*G<OLIDUS",
  "aV,^C%_B&#HORIZ;T%<TROKE aMATHEMA^C%_RIS*G_DIAG;% aL;G_DIVISI; aMATHEMA^C%_F%L*G_DIAG;%",
  "aSQU&E]LOGIC%_.D qOR aWHITE_DIAM;D#C[T~]DOT a.D#DOT aE+M[T_OF_OP[*G_UP| aLOW,_R(_CORN,#DOT",
  "aUPP,_+FT_CORN,#DOT a+FT_OUT,_JO* aR(_OUT,_JO* aFULL_OUT,_JO* aL&GE_UP_TACK gDOWN_TACK",
  "bEFT_.]R(_DOUB+_TURNS^+ pTACK fMUL^MAP b;G_R(_TACK f+FT_TACK aUP_TACK#CIRC+?",
  "aLOZ[GE_DIVIDE]BY_HORIZ;T%_RU+ aWHITE_C;CAVE-SIDE]DIAM;D bb#+FT|_^CK bhR(|_^CK gSQU&E#+FT|_^CK",
  "sR(|_^CK aMATHEMA^C%_+FT_WHITE<QU&E_BRACKET nR(_WHITE<QU&E_BRACKET n+FT_.G+_BRACKET",
  "nR(_.G+_BRACKET n+FT_DOUB+_.G+_BRACKET nR(_DOUB+_.G+_BRACKET n+FT_WHITE_TORTOISE<HELL_BRACKET",
  "nR(_WHITE_TORTOISE<HELL_BRACKET n+FT_FLATT[E]P&[THESIS nR(_FLATT[E]P&[THESIS aUP|_QUADRUP+:",
  "aDOWN|_QUADRUP+: a.^CLOCKWISE_GAPPE]CIRC+: aCLOCKWISE_GAPPE]CIRC+: aR(:#CIRC+]PLUS aL;G_+FT|:",
  "fR(|: f+FT_R(: j|_DOUB+: fR(|_DOUB+: f+FT_R(_DOUB+: j|:_FROM_B& fR(|:_FROM_B&",
  "f+FT|_DOUB+:_FROM_B& fR(|_DOUB+:_FROM_B& qSQUIGG+: aBRAIL+_PATT,N_BL.K qDOTS-1 v2 v12 v3 v13",
  "v23 v123 v4 v14 v24 v124 v34 v134 v234 v1234 v5 v15 v25 v125 v35 v135 v235 v1235 v45 v145 v245",
  "v1245 v345 v1345 v2345 v12345 v6 v16 v26 v126 v36 v136 v236 v1236 v46 v146 v246 v1246 v346",
  "v1346 v2346 v12346 v56 v156 v256 v1256 v356 v1356 v2356 v12356 v456 v1456 v2456 v12456 v3456",
  "v13456 v23456 v123456 v7 v17 v27 v127 v37 v137 v237 v1237 v47 v147 v247 v1247 v347 v1347 v2347",
  "v12347 v57 v157 v257 v1257 v357 v1357 v2357 v12357 v457 v1457 v2457 v12457 v3457 v13457 v23457",
  "v123457 v67 v167 v267 v1267 v367 v1367 v2367 v12367 v467 v1467 v2467 v12467 v3467 v13467",
  "v23467 v123467 v567 v1567 v2567 v12567 v3567 v13567 v23567 v123567 v4567 v14567 v24567 v124567",
  "v34567 v134567 v234567 v1234567 v8 v18 v28 v128 v38 v138 v238 v1238 v48 v148 v248 v1248 v348",
  "v1348 v2348 v12348 v58 v158 v258 v1258 v358 v1358 v2358 v12358 v458 v1458 v2458 v12458 v3458",
  "v13458 v23458 v123458 v68 v168 v268 v1268 v368 v1368 v2368 v12368 v468 v1468 v2468 v12468",
  "v3468 v13468 v23468 v123468 v568 v1568 v2568 v12568 v3568 v13568 v23568 v123568 v4568 v14568",
  "v24568 v124568 v34568 v134568 v234568 v1234568 v78 v178 v278 v1278 v378 v1378 v2378 v12378",
  "v478 v1478 v2478 v12478 v3478 v13478 v23478 v123478 v578 v1578 v2578 v12578 v3578 v13578",
  "v23578 v123578 v4578 v14578 v24578 v124578 v34578 v134578 v234578 v1234578 v678 v1678 v2678",
  "v12678 v3678 v13678 v23678 v123678 v4678 v14678 v24678 v124678 v34678 v134678 v234678 v1234678",
  "v5678 v15678 v25678 v125678 v35678 v135678 v235678 v1235678 v45678 v145678 v245678 v1245678",
  "v345678 v1345678 v2345678 v12345678 aR(|_TWO-HEADED:#V,^C%<TROKE bhDOUB+_V,^C%<TROKE",
  "a+FT|_DOUB+:#V,^C%<TROKE aR(|_DOUB+:#V,^C%<TROKE a+FT_R(_DOUB+:#V,^C%<TROKE",
  "aR(|_TWO-HEADED:_FROM_B& a+FT|_DOUB+:_FROM_B& aR(|_DOUB+:_FROM_B& aDOWN|:#HORIZ;T%<TROKE",
  "aUP|:#HORIZ;T%<TROKE iTRIP+: aDOWN|_TRIP+: a+FT|_DOUB+_DASH: aR(|_DOUB+_DASH:",
  "a+FT|_TRIP+_DASH: aR(|_TRIP+_DASH: mWO-HEADE]TRIP+_DASH: l&ROW#DOTTED<TEM aUP|:_TO_B&",
  "aDOWN|:_TO_B& aR(|:#TAIL#V,^C%<TROKE bgDOUB+_V,^C%<TROKE lTWO-HEADED:#TAIL bl#V,^C%<TROKE",
  "brDOUB+_V,^C%<TROKE a+FT|:-TAIL aR(|:-TAIL a+FT|_DOUB+:-TAIL aR(|_DOUB+:-TAIL",
  "a+FT|:_TO_BLACK_DIAM;D aR(|:_TO_BLACK_DIAM;D a+FT|:_FROM_B&_TO_BLACK_DIAM;D",
  "aR(|:_FROM_B&_TO_BLACK_DIAM;D aNORTH_WEST_.D<OUTH_EAST: gEAST_.D<OUTH_WEST: gWEST:#HOOK",
  "gEAST:#HOOK aSOUTH_EAST:#HOOK gWEST:#HOOK aNORTH_WEST:_.]NORTH_EAST: gEAST:_.D<OUTH_EAST:",
  "aSOUTH_EAST:_.D<OUTH_WEST: gWEST:_.]NORTH_WEST: aRIS*G_DIAG;%_CROSS*G_F%L*G_DIAG;%",
  "aF%L*G_DIAG;%_CROSS*G_RIS*G_DIAG;% aSOUTH_EAST:_CROSS*G_NORTH_EAST:",
  "aNORTH_EAST:_CROSS*G<OUTH_EAST: aF%L*G_DIAG;%_CROSS*G_NORTH_EAST:",
  "aRIS*G_DIAG;%_CROSS*G<OUTH_EAST: aNORTH_EAST:_CROSS*G_NORTH_WEST: gWEST:_CROSS*G_NORTH_EAST:",
  "aWAVE:_PO*T*G_DI~CTLY_R( a&ROW_PO*T*G_R(|_TH[_CURV*G_UP| bnDOWN| pDOWN|_TH[_CURV*G_+FT| bmR(|",
  "aR(-SIDE_&C_CLOCKWISE: a+FT-SIDE_&C_.^CLOCKWISE: aTOP_&C_.^CLOCKWISE: aBOTTOM_&C_.^CLOCKWISE:",
  "aTOP_&C_CLOCKWISE:#M*US i.^CLOCKWISE:#PLUS aLOW,_R(<EMICIRCUL&_CLOCKWISE:",
  "g+FT<EMICIRCUL&_.^CLOCKWISE: a.^CLOCKWISE_CLOSE]CIRC+: aCLOCKWISE_CLOSE]CIRC+:",
  "aR(|:?<HORT_+FT|: a+FT|:?<HORT_R(|: aSHORT_R(|:?_+FT|: aR(|:#PLUS_BELOW a+FT|:#PLUS_BELOW",
  "aR(|:_THROUGH_X a+FT_R(:_THROUGH<M%L_CIRC+ aUP|_TWO-HEADED:_FROM<M%L_CIRC+",
  "a+FT_B&B_UP_R(_B&B_DOWN_H&PO; kDOWN_R(_B&B_UP_H&PO; aUP_B&B_R(_DOWN_B&B_+FT_H&PO;",
  "i+FT_DOWN_B&B_R(_H&PO; a+FT_B&B_UP_R(_B&B_UP_H&PO; aUP_B&B_R(_DOWN_B&B_R(_H&PO;",
  "a+FT_B&B_DOWN_R(_B&B_DOWN_H&PO; aUP_B&B_+FT_DOWN_B&B_+FT_H&PO; a+FT|_H&PO;#B&B_UP_TO_B&",
  "aR(|_H&PO;#B&B_UP_TO_B& aUP|_H&PO;#B&B_R(_TO_B& aDOWN|_H&PO;#B&B_R(_TO_B&",
  "a+FT|_H&PO;#B&B_DOWN_TO_B& aR(|_H&PO;#B&B_DOWN_TO_B& aUP|_H&PO;#B&B_+FT_TO_B&",
  "aDOWN|_H&PO;#B&B_+FT_TO_B& a+FT|_H&PO;#B&B_UP_FROM_B& aR(|_H&PO;#B&B_UP_FROM_B&",
  "aUP|_H&PO;#B&B_R(_FROM_B& aDOWN|_H&PO;#B&B_R(_FROM_B& a+FT|_H&PO;#B&B_DOWN_FROM_B&",
  "aR(|_H&PO;#B&B_DOWN_FROM_B& aUP|_H&PO;#B&B_+FT_FROM_B& aDOWN|_H&PO;#B&B_+FT_FROM_B&",
  "a+FT|_H&PO;#B&B_UP?_+FT|_H&PO;#B&B_DOWN aUP|_H&PO;#B&B_+FT_BESIDE_UP|_H&PO;#B&B_R(",
  "aR(|_H&PO;#B&B_UP?_R(|_H&PO;#B&B_DOWN aDOWN|_H&PO;#B&B_+FT_BESIDE_DOWN|_H&PO;#B&B_R(",
  "a+FT|_H&PO;#B&B_UP?_R(|_H&PO;#B&B_UP bcDOWN?_R(|_H&PO;#B&B_DOWN",
  "aR(|_H&PO;#B&B_UP?_+FT|_H&PO;#B&B_UP bdDOWN?_+FT|_H&PO;#B&B_DOWN a+FT|_H&PO;#B&B_UP?_L;G_DASH",
  "bcDOWN_BELOW_L;G_DASH aR(|_H&PO;#B&B_UP?_L;G_DASH bdDOWN_BELOW_L;G_DASH",
  "aUP|_H&PO;#B&B_+FT_BESIDE_DOWN|_H&PO;#B&B_R( aDOWN|_H&PO;#B&B_+FT_BESIDE_UP|_H&PO;#B&B_R(",
  "aR(_DOUB+:#ROUNDE]HEAD aEQU%S<IGN?_R(|: a^LDE_OP,ATOR?_R(|: a+FT|:?_^LDE_OP,ATOR",
  "aR(|:?_^LDE_OP,ATOR x%MOST_EQU%_TO a+SS-TH.?_+FT|: cFT|:_THROUGH_+SS-TH. aG~AT,-TH.?_R(|:",
  "aSUBSET?_R(|: a+FT|:_THROUGH<UBSET aSUP,SET?_+FT|: a+FT_FISH_TAIL aR(_FISH_TAIL aUP_FISH_TAIL",
  "aDOWN_FISH_TAIL aTRIP+_V,^C%_B&_DELIMIT, aZ_NOTA^;<POT lTYPE_COL; a+FT_WHITE_CURLY_BRACKET",
  "aR(_WHITE_CURLY_BRACKET a+FT_WHITE_P&[THESIS aR(_WHITE_P&[THESIS aZ_NOTA^;_+FT_IMAGE_BRACKET",
  "lR(_IMAGE_BRACKET l+FT_B*D*G_BRACKET lR(_B*D*G_BRACKET a+FT<QU&E_BRACKET#UND,B&",
  "aR(<QU&E_BRACKET#UND,B& a+FT<QU&E_BRACKET#^CK_*_TOP_CORN, aR(<QU&E_BRACKET#^CK_*_BOTTOM_CORN,",
  "a+FT<QU&E_BRACKET#^CK_*_BOTTOM_CORN, aR(<QU&E_BRACKET#^CK_*_TOP_CORN, a+FT_.G+_BRACKET#DOT",
  "aR(_.G+_BRACKET#DOT a+FT_&C_+SS-TH._BRACKET aR(_&C_G~AT,-TH._BRACKET",
  "aDOUB+_+FT_&C_G~AT,-TH._BRACKET hR(_&C_+SS-TH._BRACKET a+FT_BLACK_TORTOISE<HELL_BRACKET",
  "aR(_BLACK_TORTOISE<HELL_BRACKET aDOTTE]F[CE aV,^C%_ZIGZAG_L*E aMEASU~].G+_OP[*G_+FT",
  "aR(_.G+_V&I.T#SQU&E aMEASU~]R(_.G+#DOT a.G+#S_*SIDE bCUTE_.G+ aSPH,IC%_.G+_OP[*G_+FT yUP",
  "aTURNE].G+ a~V,SE].G+ a.G+#UND,B& a~V,SE].G+#UND,B& aOBLIQUE_.G+_OP[*G_UP wDOWN",
  "aMEASU~].G+#OP[_&M_[D*G_*:_PO*T*G_UP_.]R( cj+FT ccDOWN_.]R( cl+FT ccR(_.]UP cc+FT_.]UP",
  "ccR(_.]DOWN cc+FT_.]DOWN a~V,SE]EMPTY<ET aEMPTY<ET#OV,B& pSM%L_CIRC+? pR(:? p+FT:?",
  "aCIRC+#HORIZ;T%_B& g]V,^C%_B& iP&%+L i~V,SE<OLIDUS iP,P[DICUL&",
  "g_DIVIDE]BY_HORIZ;T%_B&_.]TOP_H%F_DIVIDE]BY_V,^C%_B& hWITH<UP,IMPOSE]X",
  "g].^CLOCKWISE-ROTATE]DIVISI;<IGN aUP:_THROUGH_CIRC+ aCIRC+]WHITE_BUL+T iBUL+T i+SS-TH.",
  "iG~AT,-TH. g#SM%L_CIRC+_TO_THE_R( mTWO_HORIZ;T%<TROKES_TO_THE_R( aSQU&E]RIS*G_DIAG;%<LASH",
  "iF%L*G_DIAG;%<LASH iAST,ISK iSM%L_CIRC+ jQU&E aTWO_JO*ED<QU&ES bRI.G+#DOT? oUND,B& aS_*_TRI.G+",
  "aTRI.G+#S,IFS_AT_BOTTOM aR(_TRI.G+?_+FT_TRI.G+ a+FT_TRI.G+_BESIDE_V,^C%_B&",
  "aV,^C%_B&_BESIDE_R(_TRI.G+ aBOW^E#+FT_H%F_BLACK mR(_H%F_BLACK bLACK_BOW^E a^MES#+FT_H%F_BLACK",
  "lR(_H%F_BLACK aWHITE_HOURGLASS aBLACK_HOURGLASS a+FT_WIGGLY_F[CE aR(_WIGGLY_F[CE",
  "a+FT_DOUB+_WIGGLY_F[CE aR(_DOUB+_WIGGLY_F[CE a*COMP+TE_*F*ITY a^E_OV,_*F*ITY",
  "a*F*ITY_NEGATED#V,^C%_B& aDOUB+-[DE]MUL^MAP aSQU&E#C;TOU~]OUTL*E a*C~ASES_AS aSHUFF+_PRODUCT",
  "aEQU%S<IGN_.D<L.TE]P&%+L bg#^LDE? aID[^C%_TO_.D<L.TE]P&%+L aG+ICH<T&K aTH,MODYNAMIC",
  "aDOWN-PO*T*G_TRI.G+#+FT_H%F_BLACK bcR(_H%F_BLACK aBLACK_DIAM;D#DOWN: gLOZ[GE",
  "aWHITE_CIRC+#DOWN: aBLACK_CIRC+#DOWN: a,ROR-B&~]WHITE<QU&E nBLACK<QU&E nWHITE_DIAM;D",
  "nBLACK_DIAM;D nWHITE_CIRC+ nBLACK_CIRC+ aRU+-DELAYED bEV,SE<OLIDUS_OP,ATOR aSOLIDUS#OV,B&",
  "a~V,SE<OLIDUS#HORIZ;T%<TROKE aBIG<OLIDUS e~V,SE<OLIDUS aDOUB+_PLUS aTRIP+_PLUS",
  "a+FT-PO*T*G_CURVE].G+_BRACKET aR(-PO*T*G_CURVE].G+_BRACKET aT*Y aM*Y aN-&Y_CIRC+]DOT_OP,ATOR",
  "oPLUS_OP,ATOR o^MES_OP,ATOR gUNI;_OP,ATOR#DOT baPLUS gSQU&E_*T,SEC^;_OP,ATOR nUNI;_OP,ATOR",
  "aTWO_LOGIC%_.]OP,ATOR mOR_OP,ATOR aN-&Y_^MES_OP,ATOR aMODULO_TWO<UM aSUMMA^;#*TEGR%",
  "aQUADRUP+_*TEGR%_OP,ATOR aF*ITE_P&T_*TEGR% a*TEGR%#DOUB+<TROKE jAV,AGE#SLASH aCIRCULA^;_FUNC^;",
  "a.^CLOCKWISE_*TEGRA^; aL*E_*TEGRA^;#~CT.GUL&_PATH_&OUN]PO+ wSEMICIRCUL&_PATH_&OUN]PO+",
  "rNOT_*CLUD*G_THE_PO+ a*TEGR%_&OUN]A_PO*T_OP,ATOR aQUAT,NI;_*TEGR%_OP,ATOR a*TEGR%#+FT|:#HOOK",
  "o^MES<IGN o*T,SEC^; oUNI; oOV,B& oUND,B& aJO* aL&GE_+FT_TRI.G+_OP,ATOR",
  "aZ_NOTA^;<CHEMA_COMPOSI^; sPIP*G tROJEC^; aPLUS<IGN#SM%L_CIRC+? pCIRCUMF+X_ACC[T? p^LDE?",
  "pDOT_BELOW p^LDE_BELOW pSUBSCRIPT_TWO pBLACK_TRI.G+ aM*US<IGN#COMMA? qDOT_BELOW qF%L*G_DOTS",
  "qRIS*G_DOTS aPLUS<IGN_*_+FT_H%F_CIRC+ nR(_H%F_CIRC+ aVECTOR_OR_CROSS_PRODUCT",
  "aMUL^PLICA^;<IGN#DOT? zUND,B& aSEMIDI~CT_PRODUCT#BOTTOM_CLOSED bMASH_PRODUCT",
  "aMUL^PLICA^;<IGN_*_+FT_H%F_CIRC+ xR(_H%F_CIRC+ aCIRC+]MUL^PLICA^;<IGN#CIRCUMF+X_ACC[T",
  "aMUL^PLICA^;<IGN_*_DOUB+_CIRC+ aCIRC+]DIVISI;<IGN aPLUS<IGN_*_TRI.G+ aM*US<IGN_*_TRI.G+",
  "bUL^PLICA^;<IGN_*_TRI.G+ a*T,IOR_PRODUCT aR(H.]*T,IOR_PRODUCT aZ_NOTA^;_~LA^;%_COMPOSI^;",
  "aAM%GAMA^;_OR_COPRODUCT a*T,SEC^;#DOT aUNI;#M*US<IGN lOV,B& a*T,SEC^;#OV,B& sLOGIC%_.D",
  "aUNI;#LOGIC%_OR gABOVE_*T,SEC^; a*T,SEC^;?_UNI; aUNI;?_B&?_*T,SEC^; a*T,SEC^;?_B&?_UNI;",
  "aUNI;_BESIDE_.]JO*ED#UNI; a*T,SEC^;_BESIDE_.]JO*ED#*T,SEC^; aCLOSE]UNI;#S,IFS h*T,SEC^;#S,IFS",
  "aDOUB+<QU&E_*T,SEC^; oUNI; aCLOSE]UNI;#S,IFS_.D<MASH_PRODUCT aLOGIC%_.D#DOT? iOR#DOT?",
  "aDOUB+_LOGIC%_.D pOR aTWO_*T,SECT*G_LOGIC%_.D zOR aSLOP*G_L&GE_OR o.D",
  "aLOGIC%_OR_OV,LAPP*G_LOGIC%_.D i.D#MIDD+<TEM iOR#MIDD+<TEM i.D#HORIZ;T%_DASH iOR#HORIZ;T%_DASH",
  "i.D#DOUB+_OV,B& rUND,B& rDOUB+_UND,B& aSM%L_VEE#UND,B& aLOGIC%_OR#DOUB+_OV,B& xUND,B&",
  "aZ_NOTA^;_DOMA*_.^~STRIC^; lR.GE_.^~STRIC^; aEQU%S<IGN#DOT_BELOW aID[^C%#DOT?",
  "aTRIP+_HORIZ;T%_B&#DOUB+_V,^C%<TROKE bbTRIP+_V,^C%<TROKE bILDE_OP,ATOR#DOT? uRIS*G_DOTS",
  "aSIMIL&_M*US<IMIL& aC;GRU[T#DOT? aEQU%S#AST,ISK a%MOST_EQU%_TO#CIRCUMF+X_ACC[T",
  "bPPROXIMATELY_EQU%_OR_EQU%_TO aEQU%S<IGN?_PLUS<IGN aPLUS<IGN?_EQU%S<IGN",
  "aEQU%S<IGN?_^LDE_OP,ATOR aDOUB+_COL;_EQU% aTWO_C;SECU^VE_EQU%S<IGNS bH~E_C;SECU^VE_EQU%S<IGNS",
  "aEQU%S<IGN#TWO_DOTS?_.]TWO_DOTS_BELOW dIV%[T#FOUR_DOTS? a+SS-TH.#CIRC+_*SIDE",
  "aG~AT,-TH.#CIRC+_*SIDE a+SS-TH.#QUES^;_M&K? aG~AT,-TH.#QUES^;_M&K? a+SS-TH._OR<L.TE]EQU%_TO",
  "aG~AT,-TH._OR<L.TE]EQU%_TO a+SS-TH._OR<L.TE]EQU%_TO#DOT_*SIDE",
  "aG~AT,-TH._OR<L.TE]EQU%_TO#DOT_*SIDE a+SS-TH._OR<L.TE]EQU%_TO#DOT?",
  "aG~AT,-TH._OR<L.TE]EQU%_TO#DOT? a+SS-TH._OR<L.TE]EQU%_TO#DOT?_R(",
  "aG~AT,-TH._OR<L.TE]EQU%_TO#DOT?_+FT a+SS-TH._OR_APPROXIMATE aG~AT,-TH._OR_APPROXIMATE",
  "a+SS-TH._.D<*G+-L*E_NOT_EQU%_TO aG~AT,-TH._.D<*G+-L*E_NOT_EQU%_TO a+SS-TH._.]NOT_APPROXIMATE",
  "aG~AT,-TH._.]NOT_APPROXIMATE a+SS-TH.?_DOUB+-L*E_EQU%?_G~AT,-TH.",
  "aG~AT,-TH.?_DOUB+-L*E_EQU%?_+SS-TH. a+SS-TH.?<IMIL&_OR_EQU% aG~AT,-TH.?<IMIL&_OR_EQU%",
  "a+SS-TH.?<IMIL&?_G~AT,-TH. aG~AT,-TH.?<IMIL&?_+SS-TH. a+SS-TH.?_G~AT,-TH.?_DOUB+-L*E_EQU%",
  "aG~AT,-TH.?_+SS-TH.?_DOUB+-L*E_EQU% a+SS-TH.?<L.TE]EQU%?_G~AT,-TH.?<L.TE]EQU%",
  "aG~AT,-TH.?<L.TE]EQU%?_+SS-TH.?<L.TE]EQU% aSL.TE]EQU%_TO_OR_+SS-TH. uG~AT,-TH.",
  "u+SS-TH.#DOT_*SIDE uG~AT,-TH.#DOT_*SIDE aDOUB+-L*E_EQU%_TO_OR_+SS-TH. yG~AT,-TH.",
  "mSL.TE]EQU%_TO_OR_+SS-TH. bgG~AT,-TH. aSIMIL&_OR_+SS-TH. lG~AT,-TH. iABOVE_+SS-TH.?_EQU%S<IGN",
  "oG~AT,-TH.?_EQU%S<IGN aDOUB+_NESTE]+SS-TH. oG~AT,-TH. o+SS-TH.#UND,B&",
  "aG~AT,-TH._OV,LAPP*G_+SS-TH. nBESIDE_+SS-TH. a+SS-TH._CLOSE]BY_CURVE aG~AT,-TH._CLOSE]BY_CURVE",
  "a+SS-TH._CLOSE]BY_CURVE?<L.TE]EQU% aG~AT,-TH._CLOSE]BY_CURVE?<L.TE]EQU% aSM%+R_TH. aL&G,_TH.",
  "aSM%+R_TH._OR_EQU%_TO aL&G,_TH._OR_EQU%_TO aEQU%S<IGN#BUMPY? aP~CEDES?<*G+-L*E_EQU%S<IGN",
  "aSUCCEEDS?<*G+-L*E_EQU%S<IGN aP~CEDES?<*G+-L*E_NOT_EQU%_TO aSUCCEEDS?<*G+-L*E_NOT_EQU%_TO",
  "aP~CEDES?_EQU%S<IGN aSUCCEEDS?_EQU%S<IGN aP~CEDES?_NOT_EQU%_TO aSUCCEEDS?_NOT_EQU%_TO",
  "aP~CEDES?_%MOST_EQU%_TO aSUCCEEDS?_%MOST_EQU%_TO aP~CEDES?_NOT_%MOST_EQU%_TO",
  "aSUCCEEDS?_NOT_%MOST_EQU%_TO aDOUB+_P~CEDES hSUCCEEDS aSUBSET#DOT cP,SET#DOT"]

/-- Names from code point 2ABF on. -/
def namesFrom2ABF : List String := [
  "cBSET#PLUS<IGN_BELOW cP,SET#PLUS<IGN_BELOW cBSET#MUL^PLICA^;<IGN_BELOW",
  "cP,SET#MUL^PLICA^;<IGN_BELOW cBSET_OF_OR_EQU%_TO#DOT? cP,SET_OF_OR_EQU%_TO#DOT?",
  "cBSET_OF?_EQU%S<IGN cP,SET_OF?_EQU%S<IGN cBSET_OF?_^LDE_OP,ATOR cP,SET_OF?_^LDE_OP,ATOR",
  "cBSET_OF?_%MOST_EQU%_TO cP,SET_OF?_%MOST_EQU%_TO cBSET_OF?_NOT_EQU%_TO cP,SET_OF?_NOT_EQU%_TO",
  "bQU&E_+FT_OP[_BOX_OP,ATOR hR(_OP[_BOX_OP,ATOR aCLOSED<UBSET jP,SET jBSET_OR_EQU%_TO",
  "jP,SET_OR_EQU%_TO aSUBSET?<UP,SET cP,SET?<UBSET cBSET?<UBSET cP,SET?<UP,SET jBESIDE<UBSET",
  "q.]JO*E]BY_DASH#SUBSET aE+M[T_OF_OP[*G_DOWN| aPITCHFORK#TEE_TOP aTR.SV,S%_*T,SEC^; aFORK*G",
  "aN;FORK*G aSHORT_+FT_TACK gDOWN_TACK gUP_TACK aP,P[DICUL&#S aV,^C%_B&_TRIP+_R(_TURNS^+",
  "aDOUB+_V,^C%_B&_+FT_TURNS^+ aV,^C%_B&_DOUB+_+FT_TURNS^+ aDOUB+_V,^C%_B&_DOUB+_+FT_TURNS^+",
  "aL;G_DASH_FROM_+FT_MEMB,_OF_DOUB+_V,^C% aSHORT_DOWN_TACK#OV,B& gUP_TACK#UND,B&",
  "oABOVE<HORT_DOWN_TACK aDOUB+_DOWN_TACK hUP_TACK hSTROKE_NOT<IGN a~V,SE]DOUB+<TROKE_NOT<IGN",
  "aDOES_NOT_DIVIDE#~V,SE]NEGA^;<LASH aV,^C%_L*E#CIRC+? baBELOW aDOWN_TACK#CIRC+_BELOW",
  "aP&%+L#HORIZ;T%<TROKE o^LDE_OP,ATOR aTRIP+_V,^C%_B&_B*&Y_~LA^; uWITH_HORIZ;T%<TROKE",
  "hCOL;_OP,ATOR hNESTE]+SS-TH. oG~AT,-TH. aDOUB+-L*E<L.TE]+SS-TH._OR_EQU%_TO",
  "uG~AT,-TH._OR_EQU%_TO aTRIP+<OLIDUS_B*&Y_~LA^; aL&GE_TRIP+_V,^C%_B&_OP,ATOR",
  "aDOUB+<OLIDUS_OP,ATOR aWHITE_V,^C%_B& aN-&Y_WHITE_V,^C%_B& bORTH_EAST_WHITE: gWEST_WHITE:",
  "aSOUTH_EAST_WHITE: gWEST_WHITE: a+FT_R(_WHITE: e|_BLACK: aUP|_BLACK: aDOWN|_BLACK:",
  "aNORTH_EAST_BLACK: gWEST_BLACK: aSOUTH_EAST_BLACK: gWEST_BLACK: a+FT_R(_BLACK: aUP_DOWN_BLACK:",
  "aR(|:#^P_DOWN| baUP| a+FT|:#^P_DOWN| zUP| aSQU&E#TOP_H%F_BLACK mBOTTOM_H%F_BLACK",
  "mUPP,_R(_DIAG;%_H%F_BLACK mLOW,_+FT_DIAG;%_H%F_BLACK aDIAM;D#+FT_H%F_BLACK nR(_H%F_BLACK",
  "nTOP_H%F_BLACK nBOTTOM_H%F_BLACK bOTTED<QU&E aBLACK_L&GE<QU&E aWHITE_L&GE<QU&E",
  "aBLACK_V,Y<M%L<QU&E aWHITE_V,Y<M%L<QU&E aBLACK_P[TAG; aWHITE_P[TAG; gHEXAG; aBLACK_HEXAG;",
  "aHORIZ;T%_BLACK_HEXAG; aBLACK_L&GE_CIRC+ gMEDIUM_DIAM;D aWHITE_MEDIUM_DIAM;D",
  "aBLACK_MEDIUM_LOZ[GE aWHITE_MEDIUM_LOZ[GE aBLACK<M%L_DIAM;D mLOZ[GE aWHITE<M%L_LOZ[GE",
  "aBLACK_HORIZ;T%_ELLIPSE aWHITE_HORIZ;T%_ELLIPSE aBLACK_V,^C%_ELLIPSE aWHITE_V,^C%_ELLIPSE",
  "a+FT:#SM%L_CIRC+ aTH~E_+FT|:S a+FT:#CIRC+]PLUS b;G_+FT|<QUIGG+: bEFT|_TWO-HEADED:#V,^C%<TROKE",
  "bgDOUB+_V,^C%<TROKE bbFROM_B& vTRIP+_DASH: k&ROW#DOTTED<TEM vTAIL#V,^C%<TROKE",
  "bfDOUB+_V,^C%<TROKE kTWO-HEADED:#TAIL bk#V,^C%<TROKE bqDOUB+_V,^C%<TROKE k&ROW_THROUGH_X",
  "aWAVE:_PO*T*G_DI~CTLY_+FT aEQU%S<IGN?_+FT|: a~V,SE_^LDE_OP,ATOR?_+FT|:",
  "a+FT|:?_~V,SE_%MOST_EQU%_TO aR(|:_THROUGH_G~AT,-TH. zSUP,SET a+FT|_QUADRUP+: aR(|_QUADRUP+:",
  "bEV,SE_^LDE_OP,ATOR?_R(|: b(|:?_~V,SE_%MOST_EQU%_TO a^LDE_OP,ATOR?_+FT|: a+FT|:?_%MOST_EQU%_TO",
  "w~V,SE_^LDE_OP,ATOR aR(|:?_~V,SE_^LDE_OP,ATOR aDOWN|_TRI.G+-HEADE]ZIGZAG: aSHORT<L.TE]NORTH:",
  "gBACKSL.TED<OUTH: aWHITE_MEDIUM<T& aBLACK<M%L<T& aWHITE<M%L<T& aBLACK_R(-PO*T*G_P[TAG;",
  "aWHITE_R(-PO*T*G_P[TAG; aHEAVY_L&GE_CIRC+ gOV%#OV%_*SIDE gCIRC+#CIRC+_*SIDE m mD<%^~",
  "aSL.TE]NORTH:#HOOKE]HEAD aBACKSL.TED<OUTH:#HOOKE]TAIL aSL.TE]NORTH:#HORIZ;T%_TAIL",
  "aBACKSL.TED<OUTH:#HORIZ;T%_TAIL b[T:_PO*T*G_DOWN|_TH[_NORTH_EAST",
  "aSHORT_B[T:_PO*T*G_DOWN|_TH[_NORTH_EAST a+FT|_TRI.G+-HEADED: aUP|_TRI.G+-HEADED:",
  "aR(|_TRI.G+-HEADED: aDOWN|_TRI.G+-HEADED: a+FT_R(_TRI.G+-HEADED: aUP_DOWN_TRI.G+-HEADED:",
  "aNORTH_WEST_TRI.G+-HEADED: gEAST_TRI.G+-HEADED: aSOUTH_EAST_TRI.G+-HEADED:",
  "gWEST_TRI.G+-HEADED: a+FT|_TRI.G+-HEADE]DASHED: aUP|_TRI.G+-HEADE]DASHED:",
  "aR(|_TRI.G+-HEADE]DASHED: aDOWN|_TRI.G+-HEADE]DASHED: aCLOCKWISE_TRI.G+-HEADE]OP[_CIRC+:",
  "a.^CLOCKWISE_TRI.G+-HEADE]OP[_CIRC+: a+FT|_TRI.G+-HEADED:_TO_B& aUP|_TRI.G+-HEADED:_TO_B&",
  "aR(|_TRI.G+-HEADED:_TO_B& aDOWN|_TRI.G+-HEADED:_TO_B& 2B76=aNORTH_WEST_TRI.G+-HEADED:_TO_B&",
  "gEAST_TRI.G+-HEADED:_TO_B& aSOUTH_EAST_TRI.G+-HEADED:_TO_B& gWEST_TRI.G+-HEADED:_TO_B&",
  "a+FT|_TRI.G+-HEADED:#DOUB+_HORIZ;T%<TROKE aUP|_TRI.G+-HEADED:#DOUB+_HORIZ;T%<TROKE",
  "aR(|_TRI.G+-HEADED:#DOUB+_HORIZ;T%<TROKE aDOWN|_TRI.G+-HEADED:#DOUB+_HORIZ;T%<TROKE",
  "aHORIZ;T%_TAB_KEY aV,^C%_TAB_KEY a+FT|_TRI.G+-HEADED:_OV,_R(|_TRI.G+-HEADED:",
  "aUP|_TRI.G+-HEADED:_+FT|_OF_DOWN|_TRI.G+-HEADED: aR(|_TRI.G+-HEADED:_OV,_+FT|_TRI.G+-HEADED:",
  "aDOWN|_TRI.G+-HEADED:_+FT|_OF_UP|_TRI.G+-HEADED: a+FT|_TRI.G+-HEADE]PAI~D:S",
  "aUP|_TRI.G+-HEADE]PAI~D:S aR(|_TRI.G+-HEADE]PAI~D:S aDOWN|_TRI.G+-HEADE]PAI~D:S",
  "a+FT|_BLACK_CIRC+]WHITE: aUP|_BLACK_CIRC+]WHITE: aR(|_BLACK_CIRC+]WHITE:",
  "aDOWN|_BLACK_CIRC+]WHITE: a.^CLOCKWISE_TRI.G+-HEADE]R(_U-SHAPED: beBOTTOM_U-SHAPED:",
  "be+FT_U-SHAPED: beTOP_U-SHAPED: a~TURN_+FT hR( aNEWL*E_+FT iR(",
  "aFOUR_CORN,:S_CIRCL*G_.^CLOCKWISE aR(|_BLACK: 2B97=aSYMBOL_FOR_TYPE_A_E+CTR;ICS",
  "aTH~E-]TOP-L(E]+FT|_EQUILAT,%:HEAD iR(-L(E]UP|_EQUILAT,%:HEAD iTOP-L(E]R(|_EQUILAT,%:HEAD",
  "i+FT-L(E]DOWN|_EQUILAT,%:HEAD aBLACK_+FT|_EQUILAT,%:HEAD gUP|_EQUILAT,%:HEAD",
  "gR(|_EQUILAT,%:HEAD gDOWN|_EQUILAT,%:HEAD aDOWN|_TRI.G+-HEADED:#L;G_^P_+FT| buR(|",
  "aUP|_TRI.G+-HEADED:#L;G_^P_+FT| bsR(| a+FT|_TRI.G+-HEADED:#L;G_^P_UP|",
  "aR(|_TRI.G+-HEADED:#L;G_^P_UP| a+FT|_TRI.G+-HEADED:#L;G_^P_DOWN|",
  "aR(|_TRI.G+-HEADED:#L;G_^P_DOWN| aBLACK_CURVE]DOWN|_.]+FT|: bbR(|: nUP|_.]+FT|: zR(|:",
  "n+FT|_.]UP|: nR(|_.]UP|: n+FT|_.]DOWN|: nR(|_.]DOWN|: aRIBB;:_DOWN_+FT sR( nUP_+FT qR( n+FT_UP",
  "nR(_UP n+FT_DOWN nR(_DOWN aUP|_WHITE:_FROM_B&#HORIZ;T%_B& c:HEA]*_A_~CT.G+_BOX",
  "aOV,LAPP*G_WHITE<QU&ES s.]BLACK<QU&ES mBLACK<QU&ES aB%LOT_BOX#L(_X aCIRC+]X iBOL]X",
  "aBLACK<QU&E_C[T~D gDIAM;]C[T~D aTURNE]BLACK_P[TAG; aHORIZ;T%_BLACK_OCTAG; aBLACK_OCTAG;",
  "gMEDIUM_UP-PO*T*G_TRI.G+_C[T~D nDOWN-PO*T*G_TRI.G+_C[T~D n+FT-PO*T*G_TRI.G+_C[T~D",
  "nR(-PO*T*G_TRI.G+_C[T~D aNEPTUNE)_TWO aTOP_H%F_BLACK_CIRC+ aBOTTOM_H%F_BLACK_CIRC+",
  "aL(_FOUR_PO*TE]BLACK_CUSP aROTATE]L(_FOUR_PO*TE]BLACK_CUSP aWHITE_FOUR_PO*TE]CUSP",
  "aROTATE]WHITE_FOUR_PO*TE]CUSP aSQU&E_POSI^;_*DICATOR aUNC,TA*TY<IGN aGROUP_M&K aPLUTO)_TWO",
  "mH~E lFOUR mIVE aTR.SPLUTO aPROS,P*A aASTRAEA aHYGIEA aPHOLUS aNESSUS aWHITE_MO;<E+NA",
  "aBLACK_DIAM;];_CROSS aTRUE_L(_MO;_&TA aCUPIDO aHADES aZEUS aKR;OS aAPOLL; bDMETOS aVULC.US",
  "aPOSEID; a+FT_H%F_BLACK<T& aR(_H%F_BLACK<T& aST&#+FT_H%F_BLACK kR(_H%F_BLACK",
  "a+FT|_TWO-HEADED:#TRI.G+:HEADS aUP|_TWO-HEADED:#TRI.G+:HEADS aR(|_TWO-HEADED:#TRI.G+:HEADS",
  "aDOWN|_TWO-HEADED:#TRI.G+:HEADS a,IS)_;E kTWO aSEDNA aRUSSI._ASTROLOGIC%<YMBOL_VIG*^+ bcNOVI+",
  "bcQU*^+ bcB*OVI+ bcS[TAG; bcT~DECI+ aEQU%S<IGN#*F*ITY_BELOW aUNITED<YMBOL aSEP&ATED<YMBOL",
  "aDOUB+D<YMBOL aPASSED<YMBOL a~V,SE]R(_.G+ aHELLSCH~IB,_PAUSE<YMBOL aGLAGOLI^C_$AZU baBUKY",
  "baVEDE baGLAGOLI baDOBRO baYESTU baZHIVETE baDZELO baZEMLJA baIZHE bbNI^%_IZHE bb baDJ,VI",
  "baKAKO baLJUDIJE baMYSLITE baNASHI ba;U baPOKOJI baRITSI baSLOVO baTVRIDO baUKU baFRITU baH,U",
  "baOTU baPE baSHTA baTSI baCHRIVI baSHA baY,U bdI bbA^ baSPID,Y_HA baYU baSM%L_YUS bj#TAIL baYO",
  "baIOTATED<M%L_YUS baBIG_YUS baIOTATE]BIG_YUS baFITA baIZHITSA baSHTAPIC baTROKUTAS^_A",
  "baLAT*ATE_MYSLITE baCAUDATE_CHRIVI l@AZU yBUKY yVEDE yGLAGOLI yDOBRO yYESTU yZHIVETE yDZELO",
  "yZEMLJA yIZHE zNI^%_IZHE z yDJ,VI yKAKO yLJUDIJE yMYSLITE yNASHI y;U yPOKOJI yRITSI ySLOVO",
  "yTVRIDO yUKU yFRITU yH,U yOTU yPE ySHTA yTSI yCHRIVI ySHA yY,U bbI zA^ ySPID,Y_HA yYU",
  "ySM%L_YUS bh#TAIL yYO yIOTATED<M%L_YUS yBIG_YUS yIOTATE]BIG_YUS yFITA yIZHITSA ySHTAPIC",
  "yTROKUTAS^_A yLAT*ATE_MYSLITE yCAUDATE_CHRIVI aLAT*_$L#DOUB+_B& g@L#DOUB+_B& g$L#MIDD+_^LDE",
  "vP#STROKE vR#TAIL g@A#STROKE tT#DIAG;%<TROKE g$H#DESC[D, g@H#DESC[D, g$K#DESC[D, g@K#DESC[D,",
  "g$Z#DESC[D, g@Z#DESC[D, g$%PHA vM#HOOK vTURNE]A bdLPHA g@V#R(_HOOK g$W#HOOK g@W#HOOK tV#CURL",
  "g$H%F_H g@H%F_H tTAIL+SS_PHI tE#NOTCH tTURNE]R#TAIL tO#LOW_R*G_*SIDE g+TT,<M%L_CAPIT%_TURNE]E",
  "gSUBSCRIPT<M%!J aMODIFI,_+TT,_CAPIT%_V aLAT*_$S#SWASH_TAIL vZ#SWASH_TAIL aCOP^C_$%FA h@%FA",
  "h$VIDA h@VIDA h$GAMMA h@GAMMA h$D%DA h@D%DA h$EIE h@EIE h$SOU h@SOU h$ZATA h@ZATA h$HATE",
  "h@HATE h$THETHE h@THETHE h$IAUDA h@IAUDA h$KAPA h@KAPA h$LAULA h@LAULA h$MI h@MI h$NI h@NI",
  "h$KSI h@KSI h$O h@O h$PI h@PI h$RO h@RO h$SIMA h@SIMA h$TAU h@TAU h$UA h@UA h$FI h@FI h$KHI",
  "h@KHI h$PSI h@PSI h$OOU h@OOU h$DI%ECT-P_%EF h@DI%ECT-P_%EF h$OL]COP^C_A* h@OL]COP^C_A*",
  "h$CRYPTOGRAMMIC_EIE h@CRYPTOGRAMMIC_EIE h$DI%ECT-P_KAPA h@DI%ECT-P_KAPA h$DI%ECT-P_NI",
  "h@DI%ECT-P_NI h$CRYPTOGRAMMIC_NI h@CRYPTOGRAMMIC_NI h$OL]COP^C_OOU h@OL]COP^C_OOU h$SAMPI",
  "h@SAMPI h$CROSSED<HEI h@CROSSED<HEI h$OL]COP^C<HEI h@OL]COP^C<HEI h$OL]COP^C_ESH",
  "h@OL]COP^C_ESH h$AKHMIMIC_KHEI h@AKHMIMIC_KHEI h$DI%ECT-P_HORI h@DI%ECT-P_HORI h$OL]COP^C_HORI",
  "h@OL]COP^C_HORI h$OL]COP^C_HA h@OL]COP^C_HA h$L-SHAPE]HA h@L-SHAPE]HA h$OL]COP^C_HEI",
  "h@OL]COP^C_HEI h$OL]COP^C_HAT h@OL]COP^C_HAT h$OL]COP^C_G.GIA h@OL]COP^C_G.GIA h$OL]COP^C_DJA",
  "h@OL]COP^C_DJA h$OL]COP^C<HIMA h@OL]COP^C<HIMA h$OL]NUBI.<HIMA h@OL]NUBI.<HIMA h$OL]NUBI._NGI",
  "h@OL]NUBI._NGI h$OL]NUBI._NYI h@OL]NUBI._NYI h$OL]NUBI._WAU h@OL]NUBI._WAU iYMBOL_KAI oMI_RO",
  "oPI_RO oSTAUROS oTAU_RO oKHI_RO oSHIMA<IMA h$CRYPTOGRAMMIC<HEI h@CRYPTOGRAMMIC<HEI",
  "h$CRYPTOGRAMMIC_G.GIA h@CRYPTOGRAMMIC_G.GIA hCOMB**G_NI? rSPIRITUS_ASP, ba+NIS",
  "iAPITA!BOHAIRIC_KHEI h@BOHAIRIC_KHEI 2CF9=hOL]NUBI._FULL<TOP sDI~CT_QUES^;_M&K",
  "s*DI~CT_QUES^;_M&K sV,SE_DIVID, hFRAC^;_;E_H%F iULL<TOP hMORPHOLOGIC%_DIVID, aGEORGI.<M%!. wB.",
  "wG. wD; w[ wV* wZ[ wT. w* wK. wLAS wM. wN& w; wP& wZH& wRAE wS. wT& wUN wPH& wKH& wGH. wQ&",
  "wSH* wCH* x. wJIL wCIL xH& wX. wJH. wHAE xE xIE wWE wH& xOE 2D27=wYN 2D2D=wA[",
  "2D30=a^F*AGH_+TT,_YA sB tH sG tHH qB,B,_ACADEMY_YAJ qYAJ sD tH tD uH rEY rAF sK qTU&EG_YAK",
  "qYAKHH sH qB,B,_ACADEMY_YAH qTU&EG_YAH qYAHH sA sKH qTU&EG_YAKH qYAQ qTU&EG_YAQ qYI rAZH",
  "qAHAGG&_YAZH qTU&EG_YAZH qY% sM sN qTU&EG_YAGN zNG qYAP rU r& tR sGH qTU&EG_YAGH qAY,_YAGH",
  "qYAS tS tH sT tH sCH sTT sV sW sY sZ qTAWEL+MET_YAZ qYAZZ rE rO",
  "2D6F=jMODIFI,_+TT,_LABI%IZA^;_M&K jSEP&ATOR_M&K 2D7F=jC;S;.T_JO*, aETHIOPIC<YLLAB+_LOA sMOA",
  "sROA sSOA tHOA sBOA sTOA sCOA sNOA tYOA sGLOTT%_OA sZOA sDOA tDOA sJOA sTHOA sCHOA sPHOA tOA",
  "sGGWA vI vEE w 2DA0=sSSA uU uI uAA uEE v uO 2DA8=sCCA uU uI uAA uEE v uO 2DB0=sZZA uU uI uAA",
  "uEE v uO 2DB8=sCCHA vU vI vAA vEE w vO 2DC0=sQYA uU uI uAA uEE v uO 2DC8=sKYA uU uI uAA uEE v",
  "uO 2DD0=sXYA uU uI uAA uEE v uO 2DD8=sGYA uU uI uAA uEE v uO 2DE0=aCOMB**G_CYRILLIC_+TT,_BE",
  "baVE baGHE baDE baZHE bbE baKA baEL bbM bbN baO baPE ba, bbS baTE baHA baTSE baCHE baSHA bcCHA",
  "baFITA baES-TE baA baIE baDJ,V baM;OGRAPH_UK baYAT bbU baIO^FIE]A baLITT+_YUS baBIG_YUS",
  "baIO^FIE]BIG_YUS aR(_.G+<UBS^TU^;_M&K, mDOTTED<UBS^TU^;_M&K, a+FT<UBS^TU^;_BRACKET",
  "aR(<UBS^TU^;_BRACKET a+FT_DOTTED<UBS^TU^;_BRACKET aR(_DOTTED<UBS^TU^;_BRACKET",
  "bAISE]*T,POLA^;_M&K, hDOTTE]*T,POLA^;_M&K, aDOTTE]TR.SPOSI^;_M&K, a+FT_TR.SPOSI^;_BRACKET",
  "aR(_TR.SPOSI^;_BRACKET bAISED<QU&E a+FT_RAISE]OMISSI;_BRACKET aR(_RAISE]OMISSI;_BRACKET",
  "aEDITORI%_COR;IS aP&AGRAPHOS aFORKE]P&AGRAPHOS a~V,SE]FORKE]P&AGRAPHOS aHYPODIASTO+",
  "aDOTTE]OBELOS cWN|_.CORA aUP|_.CORA aDOTTE]R(-PO*T*G_.G+ cUB+_OBLIQUE_HYPH[ a*V,TE]*T,ROB.G",
  "aP%M_BR.CH aHYPH[#DIA,ESIS a^LDE#R*G? a+FT_LOW_P&APHRASE_BRACKET aR(_LOW_P&APHRASE_BRACKET",
  "a^LDE#DOT? pBELOW a+FT_V,^C%_B&#QUILL aR(_V,^C%_B&#QUILL aTOP_+FT_H%F_BRACKET eR(_H%F_BRACKET",
  "aBOTTOM_+FT_H%F_BRACKET hR(_H%F_BRACKET a+FT<IDEWAYS_U_BRACKET aR(<IDEWAYS_U_BRACKET",
  "a+FT_DOUB+_P&[THESIS aR(_DOUB+_P&[THESIS aTWO_DOTS_OV,_;E_DOT_PUNCTUA^;",
  "a;E_DOT_OV,_TWO_DOTS_PUNCTUA^; aSQU&E]FOUR_DOT_PUNCTUA^; aFIVE_DOT_M&K a~V,SE]QUES^;_M&K",
  "aV,^C%_^LDE aR*G_PO*T aWORD<EP&ATOR_MIDD+_DOT aTURNE]COMMA aRAISE]DOT hCOMMA aTURNED<EMICOL;",
  "aDAGG,#+FT_GU&D mR(_GU&D aTURNE]DAGG, bOP_H%F<EC^;<IGN bWO-EM_DASH bH~E-EM_DASH",
  "aST[OGRAPHIC_FULL<TOP aV,^C%<IX_DOTS aWIGGLY_V,^C%_L*E aCAPITULUM aDOUB+_HYPH[ a~V,SE]COMMA",
  "aDOUB+_LOW-~V,SED-9_QUOTA^;_M&K bASH#+FT_UPTURN bOUB+<USP[SI;_M&K a*V,TE]LOW_KAVYKA t#KAVYKA?",
  "aLOW_KAVYKA k#DOT aDOUB+<TACKE]COMMA cTTED<OLIDUS aTRIP+_DAGG, aMEDIEV%_COMMA aP&AGRAPHUS_M&K",
  "bUNCTUS_E+VATUS_M&K aCORNISH_V,SE_DIVID, bROSS_PATTY#R(_CROSSB& r+FT_CROSSB&",
  "a^R;I.<IGN_CAPIT%_ET aMEDIEV%_EXCLAMA^;_M&K jQUES^;_M&K a+FT<QU&E_BRACKET#STROKE",
  "aR(<QU&E_BRACKET#STROKE a+FT<QU&E_BRACKET#DOUB+<TROKE aR(<QU&E_BRACKET#DOUB+<TROKE",
  "aTOP_H%F_+FT_P&[THESIS jR(_P&[THESIS aBOTTOM_H%F_+FT_P&[THESIS mR(_P&[THESIS aOBLIQUE_HYPH[",
  "2E80=aCJK_RADIC%_~PEAT mCLIFF mSEC;];E tTWO uH~E mP,S; mBOX mTAB+ mKNIFE_;E sTWO mDIV*A^; mSE%",
  "nM%L_;E sTWO mLAME_;E rTWO sH~E rFOUR mSNAKE mTH~AD mSNOUT_;E sTWO mHE&T_;E sTWO n.D mRAP",
  "2E9B=mCHOKE mSUN mMO; mDEATH mMOTH, mCIVILI. mWAT,_;E sTWO mFI~ mPAW_;E qTWO",
  "mSIMPLIFIE]H%F_T~E_TRUNK mCOW mDOG mJADE mBOLT_OF_CLOTH mEYE mSPIRIT_;E tTWO mBAMBOO mSILK",
  "mC-SIMPLIFIED<ILK mNET_;E qTWO rH~E qFOUR mMESH mSHEEP mRAM mEWE mOLD mBRUSH_;E sTWO mMEAT",
  "nORT& mGRASS_;E sTWO tH~E m^G, mCLOTHES mWEST_;E rTWO mC-SIMPLIFIED<EE mSIMPLIFIE]HORN mHORN",
  "mC-SIMPLIFIED<PEECH baHELL mFOOT mC-SIMPLIFIE]C&T mSIMPLIFIE]W%K mW%K_;E rTWO mCITY",
  "n-SIMPLIFIE]GOLD mL;G_;E rTWO mC-SIMPLIFIE]L;G zGATE mMOUN];E sTWO mRA* mBLUE",
  "mC-SIMPLIFIE]T.NE]+ATH, z+AF zW*D zFLY mEAT_;E qTWO rH~E mC-SIMPLIFIE]EAT mHEAD",
  "mC-SIMPLIFIE]HORSE mB;E mGHOST mC-SIMPLIFIE]FISH zBIRD zS%T mSIMPLIFIE]WHEAT xYELLOW",
  "mC-SIMPLIFIE]FROG mJ-SIMPLIFIE]EV[ mC-SIMPLIFIE]EV[ mJ-SIMPLIFIE]TOOTH mC-SIMPLIFIE]TOOTH",
  "mJ-SIMPLIFIE]DRAG; mC-SIMPLIFIE]DRAG; mTURT+ mJ-SIMPLIFIE]TURT+ mC-SIMPLIFIE]TURT+",
  "2F00=aK.GXI_RADIC%_;E pL*E pDOT pSLASH qEC;D pHOOK pTWO pLID pM. p+GS p[T, q( pDOWN_BOX pCOV,",
  "pICE pTAB+ pOP[_BOX pKNIFE pPOW, pWRAP pSPO; pR(_OP[_BOX pHID*G_[CLOSU~ pT[ pDIV*A^; pSE%",
  "pCLIFF pPRIVATE pAGA* pMOUTH p[CLOSU~ q&TH pSCHOL& pGO r<LOWLY pEV[*G pBIG pWOM. pCHILD pROOF",
  "p*CH pSM%L pLAME pCORPSE pSPROUT pMOUNTA* pRIV, pWORK p;ESELF pTURB. pDRY pSHORT_TH~AD",
  "pDOTTE]CLIFF pL;G<TRIDE pTWO_H.DS pSHOOT pBOW pSNOUT pBRIST+ pSTEP pHE&T q%B,D pDOOR pH.D",
  "pBR.CH pRAP pSCRIPT pDIPP, pAXE pSQU&E pNOT pSUN qAY pMO; pT~E pLACK pSTOP pDEATH pWEAP;",
  "pDO_NOT pCOMP&E pFUR pCL. pSTEAM pWAT, pFI~ pCLAW pFATH, pDOUB+_X pH%F_T~E_TRUNK pSLICE pF.G",
  "pCOW pDOG pPROFOUND pJADE pMEL; p^+ pSWEET pLIFE pUSE pFIELD pBOLT_OF_CLOTH pSICKNESS",
  "pDOTTE]T[T pWHITE pSK* pDISH pEYE pSPE& p&ROW pST;E qPIRIT pTRACK pGRA* pCAVE pST.D pBAMBOO",
  "pRICE pSILK pJ& pNET pSHEEP pFEATH, pOLD p.D pPLOW pE& pBRUSH pMEAT q*IST, pSELF p&RIVE pMORT&",
  "pT;GUE pOPPOSE pBOAT pSTOPP*G pCOLOR pGRASS p^G, p*SECT pBLOOD pW%K_[CLOSU~ pCLOTHES pWEST",
  "pSEE pHORN pSPEECH pV%+Y pBE. pPIG pBADG, pSHELL p~D qUN pFOOT pBODY pC&T pBITT, pMORN*G pW%K",
  "pCITY pW*E pDIST*GUISH pVILLAGE pGOLD pL;G pGATE pMOUND pSLAVE qHORT_TAI+]BIRD pRA* pBLUE",
  "pWR;G pFACE p+ATH, pT.NE]+ATH, p+EK pSOUND p+AF pW*D pFLY pEAT pHEAD pFRAGR.T pHORSE pB;E pT%L",
  "pHAIR pF( pSACRIFICI%_W*E pCAULDR; pGHOST pFISH pBIRD pS%T pDE, pWHEAT pHEMP pYELLOW pMIL+T",
  "pBLACK pEMBROID,Y pFROG pTRIPOD pDRUM pRAT pNOSE pEV[ pTOOTH pDRAG; pTURT+ pFLUTE",
  "2FF0=aIDEOGRAPHIC_DESCRIP^;_CH&ACT,_+FT_TO_R( biABOVE_TO_BELOW bi+FT_TO_MIDD+_.]R(",
  "biABOVE_TO_MIDD+_.]BELOW biFULL<URROUND biSURROUN]FROM? bwBELOW bw+FT bwUPP,_+FT ccR(",
  "bwLOW,_+FT biOV,LAID 3000=mSPACE mCOMMA mFULL<TOP aDITTO_M&K aJAP.ESE_*DUSTRI%<T.D&D<YMBOL",
  "aIDEOGRAPHIC_IT,A^;_M&K mCLOS*G_M&K mNUMB,_Z,O a+FT_.G+_BRACKET aR(_.G+_BRACKET",
  "a+FT_DOUB+_.G+_BRACKET aR(_DOUB+_.G+_BRACKET a+FT_CORN,_BRACKET aR(_CORN,_BRACKET",
  "a+FT_WHITE_CORN,_BRACKET aR(_WHITE_CORN,_BRACKET a+FT_BLACK_+N^CUL&_BRACKET",
  "aR(_BLACK_+N^CUL&_BRACKET aPOST%_M&K aGETA_M&K a+FT_TORTOISE<HELL_BRACKET",
  "aR(_TORTOISE<HELL_BRACKET a+FT_WHITE_+N^CUL&_BRACKET aR(_WHITE_+N^CUL&_BRACKET",
  "a+FT_WHITE_TORTOISE<HELL_BRACKET aR(_WHITE_TORTOISE<HELL_BRACKET a+FT_WHITE<QU&E_BRACKET",
  "aR(_WHITE<QU&E_BRACKET aWAVE_DASH a~V,SE]DOUB+_PRIME_QUOTA^;_M&K aDOUB+_PRIME_QUOTA^;_M&K",
  "aLOW_DOUB+_PRIME_QUOTA^;_M&K aPOST%_M&K_FACE aH.GZHOU_NUM,%_;E rTWO sH~E rFOUR sIVE rSIX sEV[",
  "rE( rN*E aIDEOGRAPHIC_+VEL_T;E_M&K mRIS*G_T;E_M&K mDEP&T*G_T;E_M&K m[T,*G_T;E_M&K",
  "aH.GUL<*G+_DOT_T;E_M&K hDOUB+_DOT_T;E_M&K aWAVY_DASH aV,^C%_K.A_~PEAT_M&K vWITH_VOICED<OUN]M&K",
  "vM&K_UPP,_H%F vWITH_VOICED<OUN]M&K_UPP,_H%F vM&K_LOW,_H%F aCIRC+]POST%_M&K",
  "aIDEOGRAPHIC_TE+GRAPH_L*E_FEED<EP&ATOR<YMBOL aH.GZHOU_NUM,%_T[ sW[TY sHIRTY",
  "aV,^C%_IDEOGRAPHIC_IT,A^;_M&K aMASU_M&K aP&T_%T,NA^;_M&K aIDEOGRAPHIC_V&IA^;_*DICATOR",
  "mH%F_FILL<PACE 3041=aHIRAG.A_+TT,<M%L_A qA qSM%L_I qI qSM%L_U qU qSM%L_E qE qSM%L_O qO qKA qGA",
  "qKI qGI qKU qGU qKE qGE qKO qGO qSA qZA qSI qZI qSU qZU qSE qZE qSO qZO qTA qDA q^ qDI",
  "qSM%L_TU qTU qDU qTE qDE qTO qDO qNA rI rU rE rO qHA qBA qPA qHI qBI qPI qHU qBU qPU qHE qBE",
  "qPE qHO qBO qPO qMA rI rU rE rO qSM%L_YA qYA qSM%L_YU qYU qSM%L_YO qYO qRA rI rU rE rO",
  "qSM%L_WA qWA rI rE rO qN qVU qSM%L_KA xE 3099=aCOMB**G_KATAK.A-HIRAG.A_VOICED<OUN]M&K",
  "bcSEMI-VOICED<OUN]M&K aKATAK.A-HIRAG.A_VOICED<OUN]M&K sSEMI-VOICED<OUN]M&K aHIRAG.A_IT,A^;_M&K",
  "jVOICE]IT,A^;_M&K jDIGRAPH_YORI aKATAK.A-HIRAG.A_DOUB+_HYPH[ i_+TT,<M%L_A qA qSM%L_I qI",
  "qSM%L_U qU qSM%L_E qE qSM%L_O qO qKA qGA qKI qGI qKU qGU qKE qGE qKO qGO qSA qZA qSI qZI qSU",
  "qZU qSE qZE qSO qZO qTA qDA q^ qDI qSM%L_TU qTU qDU qTE qDE qTO qDO qNA rI rU rE rO qHA qBA",
  "qPA qHI qBI qPI qHU qBU qPU qHE qBE qPE qHO qBO qPO qMA rI rU rE rO qSM%L_YA qYA qSM%L_YU qYU",
  "qSM%L_YO qYO qRA rI rU rE rO qSM%L_WA qWA rI rE rO qN qVU qSM%L_KA xE qVA rI rE rO jMIDD+_DOT",
  "i-HIRAG.A_PROL;GED<OUN]M&K i_IT,A^;_M&K jVOICE]IT,A^;_M&K jDIGRAPH_KOTO 3105=aBOPOMOFO_+TT,_B",
  "qP qM qF qD qT qN qL qG qK qH qJ qQ qX qZH qCH qSH qR qZ qC qS qA qO qE rH qAI qEI qAU qOU q.",
  "q[ q.G q[G rR qI qU qIU qV qNG qGN qIH qO#DOT? qNN 3131=aH.GU!KIYEOK oSS.GKIYEOK oKIYEOK-SIOS",
  "oNIEUN t-CIEUC uHIEUH o^KEUT oSS.G^KEUT oRIEUL t-KIYEOK uMIEUM uPIEUP uSIOS uTHIEUTH uPHIEUPH",
  "uHIEUH oMIEUM oPIEUP oSS.GPIEUP oPIEUP-SIOS oSIOS pS.GSIOS oIEUNG oCIEUC oSS.GCIEUC oCHIEUCH",
  "oKHIEUKH oTHIEUTH oPHIEUPH oHIEUH oA pE oYA qE oEO p oYEO q oO oWA qE oOE oYO oU oWEO q pI oYU",
  "oEU oYI oI hFIL+R h+TT,<S.GNIEUN oNIEUN-^KEUT uSIOS uP.SIOS oRIEUL-KIYEOK-SIOS u^KEUT",
  "uPIEUP-SIOS v.SIOS uYEOR*HIEUH oMIEUM-PIEUP uSIOS uP.SIOS oKAPYEOUNMIEUM oPIEUP-KIYEOK u^KEUT",
  "uSIOS-KIYEOK z^KEUT uCIEUC uTHIEUTH oKAPYEOUNPIEUP wSS.GPIEUP oSIOS-KIYEOK tNIEUN t^KEUT",
  "tPIEUP tCIEUC oP.SIOS oSS.GIEUNG oYESIEUNG w-SIOS xP.SIOS oKAPYEOUNPHIEUPH oSS.GHIEUH",
  "oYEOR*HIEUH pO-YA tE rI pU-YEO t rI o&AEA tE 3190=aIDEOGRAPHIC_.NOTA^;_L*K*G_M&K x~V,SE_M&K",
  "x;E_M&K xTWO_M&K yH~E_M&K xFOUR_M&K xTOP_M&K xMIDD+_M&K xBOTTOM_M&K xFIRST_M&K xSEC;]M&K",
  "xTHIR]M&K xFOURTH_M&K xHEAV[_M&K xE&TH_M&K xM._M&K aBOPOMOFO_+TT,_BU qZI qJI qGU qEE rNN qOO",
  "rNN qIR q.N q*N qUNN qIM qNGG qA*N rUNN rM qOM rNG q*NN jF*A!P wT wK wH j+TT,_GH qLH qZY",
  "jF*A!G j+TT,_GW qKW qOE qAH aCJK<TROKE_T lWG lXG lBXG lSW lHZZ nG mP mZWG lSZWG lHZT nZP mPWG",
  "mZW nZZ lN lH lS lP lSP lD lHZ mG lSZ mWZ mT mG lPD mZ lTN lSZZ mWG lHXWG mZZZG lPG lQ",
  "31F0=aKATAK.A_+TT,<M%L_KU wSI xU wTO wNU wHA xI xU xE xO wMU wRA xI xU xE xO",
  "aP&[THESIZE]H.GUL_KIYEOK vNIEUN v^KEUT vRIEUL vMIEUM vPIEUP vSIOS vIEUNG vCIEUC wHIEUCH",
  "vKHIEUKH vTHIEUTH vPHIEUPH vHIEUH vKIYEOK_A vNIEUN_A v^KEUT_A vRIEUL_A vMIEUM_A vPIEUP_A",
  "vSIOS_A vIEUNG_A vCIEUC_A wHIEUCH_A vKHIEUKH_A vTHIEUTH_A vPHIEUPH_A vHIEUH_A vCIEUC_U",
  "oKO~._CH&ACT,_OJE; bg_HU 3220=oIDEOGRAPH_;E yTWO zH~E yFOUR zIVE ySIX zEV[ yE( yN*E yT[ yMO;",
  "yFI~ yWAT, zOOD yMET% yE&TH ySUN zTOCK yHAVE ySOCIETY yNAME ySPECI% yF*.CI% yC;GRATULA^;",
  "yLABOR y~P~S[T yC%L ySTUDY zUP,VISE y[T,PRISE y~SOURCE y%LI.CE yFES^V% y~ST ySELF y~ACH",
  "aCIRC+]IDEOGRAPH_QUES^; sK*D,G&T[ sSCHOOL sKOTO iNUMB,_T[_;_BLACK<QU&E qW[TY_;_BLACK<QU&E",
  "qHIRTY_;_BLACK<QU&E pFORTY_;_BLACK<QU&E qIFTY_;_BLACK<QU&E pSIXTY_;_BLACK<QU&E",
  "qEV[TY_;_BLACK<QU&E pE(Y_;_BLACK<QU&E aP&TN,SHIP<IGN aCIRC+]NUMB,_TW[TY_;E wTWO xH~E wFOUR",
  "xIVE wSIX xEV[ wE( wN*E qHIRTY v_;E wTWO xH~E wFOUR xIVE iH.GUL_KIYEOK pNIEUN p^KEUT pRIEUL",
  "pMIEUM pPIEUP pSIOS pIEUNG pCIEUC qHIEUCH pKHIEUKH pTHIEUTH pPHIEUPH pHIEUH pKIYEOK_A pNIEUN_A",
  "p^KEUT_A pRIEUL_A pMIEUM_A pPIEUP_A pSIOS_A pIEUNG_A pCIEUC_A qHIEUCH_A pKHIEUKH_A pTHIEUTH_A",
  "pPHIEUPH_A pHIEUH_A iKO~._CH&ACT,_CHAMKO zJUEUI iH.GUL_IEUNG_U aKO~.<T.D&D<YMBOL",
  "aCIRC+]IDEOGRAPH_;E sTWO tH~E sFOUR tIVE sSIX tEV[ sE( sN*E sT[ sMO; sFI~ sWAT, tOOD sMET%",
  "sE&TH sSUN tTOCK sHAVE sSOCIETY sNAME sSPECI% sF*.CI% sC;GRATULA^; sLABOR sSEC~T sM%E sFEM%E",
  "sSUITAB+ sEXCEL+NT sPR*T sATT[^; sITEM s~ST sCOPY uR~CT sHIGH sC[T~ sLOW tEFT sR( sMEDIC*E",
  "s~LIGI; sSTUDY tUP,VISE s[T,PRISE s~SOURCE s%LI.CE sN( iNUMB,_THIRTY<IX xEV[ wE( wN*E pFORTY",
  "u_;E vTWO wH~E vFOUR wIVE vSIX wEV[ vE( vN*E qIFTY aIDEOGRAPHIC_TE+GRAPH<YMBOL_FOR_J.U&Y",
  "bhFEBRU&Y bhM&CH bhAPRIL bhMAY bhJUNE bjLY bhAUGUST bhSEPTEMB, bhOCTOB, bhNOVEMB, bhDECEMB,",
  "aSQU&E_HG h,G iV aLIMITE]LIABILITY<IGN aCIRC+]KATAK.A_A rI rU rE rO rKA sI sU sE sO rSA sI sU",
  "sE sO rTA sI sU sE sO rNA sI sU sE sO rHA sI sU sE sO rMA sI sU sE sO rYA sU sO rRA sI sU sE",
  "sO rWA sI sE sO aSQU&E_,A_NAME_~IWA hAPAATO iRUHUA iNPEA i&U h**GU j^ hU; hESUKUUDO iEKAA h;SU",
  "iOMU hKAIRI jRATTO kORII hG&; jNMA iIGA jNII hKYURII hGIRUDAA hKIRO lGURAMU lMEETORU lWATTO",
  "hGURAMU nT; hKURUZEIRO kO;E iEESU iORUNA jOPO hSAIKURU jN^IMU iIR*GU i[^ lO hDAASU iESI iORU",
  "hT; hN.O iOTTO hHAITU hPAAS[TO kTU hBA&,U hPIASUTORU jKURU kO hBIRU hHU&ADDO jIITO hBUSSY,U",
  "hHUR. iEKUTA&U hPESO jNIHI hH,UTU hP[SU jEZI hBEETA hPO*TO hBORUTO hH; hP;DO hHOORU kN",
  "hMAIKURO kRU jHHA jRUKU jNSY; iIKUR; jRI lBA&U iEGA lT; jETORU hYAADO kRU iU. hRITTORU jRA",
  "iUPII jUBURU iEMU jNTOG[ hWATTO aIDEOGRAPHIC_TE+GRAPH<YMBOL_FOR_HOUR_Z,O bm;E bmTWO bnH~E",
  "bmFOUR bnIVE bmSIX bnEV[ bmE( bmN*E bmT[ bmE+V[ bmTWELVE bnHIRTE[ bmFOURTE[ bnIFTE[ bmSIXTE[",
  "bnEV[TE[ bmE(E[ bmN*ETE[ bmTW[TY bs-;E btTWO buH~E btFOUR aSQU&E_HPA hDA hAU hB& hOV hPC hDM",
  "j<QU&ED kCUBED hIU h,A_NAME_HEISEI qSYOUWA qTAISYOU qMEIZI hCORPORA^; hPA_AMPS hNA hMU_A iA",
  "hKA iB hMB hGB hC% hKC% hPF hNF hMU_F kG iG hKG hHZ hKHZ hMHZ hGHZ hTHZ hMU_L iL hDL hKL hFM",
  "hNM hMU_M iM hCM hKM hMM<QU&ED hCM<QU&ED hM<QU&ED hKM<QU&ED hMM_CUBED hCM_CUBED hM_CUBED",
  "hKM_CUBED hM_OV,< p<QU&ED hPA hKPA hMPA hGPA hRAD k_OV,< r<QU&ED hPS hNS hMU< iS hPV hNV hMU_V",
  "iV hKV hMV_MEGA hPW hNW hMU_W iW hKW hMW_MEGA hK_OHM hM_OHM hAM hBQ hCC iD i_OV,_KG iO hDB hGY",
  "hHA iP h* hKK iM_CAPIT% iT hLM iN iOG iX hMB<M%L iIL iOL hPH iM iPM iR hSR iV hWB hV_OV,_M",
  "hA_OV,_M aIDEOGRAPHIC_TE+GRAPH<YMBOL_FOR_DAY_;E blTWO bmH~E blFOUR bmIVE blSIX bmEV[ blE(",
  "blN*E blT[ blE+V[ blTWELVE bmHIRTE[ blFOURTE[ bmIFTE[ blSIXTE[ bmEV[TE[ blE(E[ blN*ETE[",
  "blTW[TY br-;E bsTWO btH~E bsFOUR btIVE bsSIX btEV[ bsE( bsN*E bmHIRTY br-;E aSQU&E_G%",
  "4DC0=aHEXAGRAM_FOR_THE_C~A^VE_HEAV[ r~CEP^VE_E&TH nDIFFICULTY_AT_THE_BEG*N*G nYOUTHFUL_FOLLY",
  "nWAIT*G nC;FLICT nTHE_&MY nHOLD*G_TOGETH, nSM%L_TAM*G nT~AD*G nPEACE nST.DS^LL nFELLOWSHIP",
  "nG~AT_POSSESSI; nMODESTY n[THUSIASM nFOLLOW*G nWORK_;_THE_DECAYED nAPPROACH nC;TEMPLA^;",
  "nBIT*G_THROUGH nGRACE nSPLITT*G_AP&T n~TURN n*NOC[CE nG~AT_TAM*G nMOUTH_CORN,S nG~AT_P~P;D,.CE",
  "nTHE_ABYSM%_WAT, rCL*G*G_FI~ n*FLU[CE nDURA^; n~T~AT nG~AT_POW, nPROG~SS nD&K[*G_OF_THE_L(",
  "nTHE_FAMILY nOPPOSI^; oBSTRUC^; nDELIV,.CE pC~ASE n*C~ASE nB~AKTHROUGH nCOM*G_TO_MEET",
  "nGATH,*G_TOGETH, nPUSH*G_UPW&D nOPP~SSI; nTHE_WELL n~VOLU^; nTHE_CAULDR; r&OUS*G_THUND,",
  "rKEEP*G<^LL_MOUNTA* nDEVELOPM[T nTHE_M&RY*G_MAID[ nABUND.CE nTHE_W.D,, rG[T+_W*D rJOYOUS_LAKE",
  "nDISP,SI; nLIMITA^; n*N,_TRUTH nSM%L_P~P;D,.CE nAFT,_COMP+^; nBEFO~_COMP+^; A000=aYI<YLLAB+_IT",
  "nX n nP nET oX o oP mAT nX n nP mUOX o oP mOT nX n nP mEX n mWU mBIT oX o oP oET pX p pP nAT",
  "oX o oP nUOX p pP nOT oX o oP nEX o oP nUT oX o oP oRX p nYT oX o oP oRX p mPIT oX o oP oEX p",
  "pP nAT oX o oP nUOX p pP nOT oX o oP nUT oX o oP oRX p nYT oX o oP oRX p mBBIT pX p pP pET qX",
  "q qP oAT pX p pP oUOX q qP oOT pX p pP oEX p pP oUT pX p pP pRX q oYT pX p pP mNBIT pX p pP",
  "pEX q qP oAT pX p pP oOT pX p pP oUT pX p pP pRX q oYT pX p pP pRX q mHMIT pX p pP pEX q qP",
  "oAT pX p pP oUOX q qP oOT pX p pP oUT pX p pP pRX q oYX p pP pRX q mMIT oX o oP oEX p pP nAT",
  "oX o oP nUOT pX p pP nOT oX o oP nEX o nUT oX o oP oRX p nYT oX o oP mFIT oX o oP nAT oX o oP",
  "nOX o oP nUT oX o oP oRX p nYT oX o oP mVIT oX o oP oET pX p pP nAT oX o oP nOT oX o oP nEX oP",
  "nUT oX o oP oRX p nYT oX o oP oRX p mDIT oX o oP oEX p pP nAT oX o oP nUOX p nOT oX o oP nEX o",
  "oP nUT oX o oP oRX p m^T oX o oP oEX p pP nAT oX o oP nUOT pX p pP nOT oX o oP nEX o oP nUT oX",
  "o oP oRX p mDDIT pX p pP pEX q qP oAT pX p pP oUOX q qP oOT pX p pP oEX p pP oUT pX p pP pRX q",
  "mNDIT pX p pP pEX q oAT pX p pP oOT pX p pP oEX p pP oUT pX p pP pRX q mHNIT pX p pP pET qX q",
  "qP oAT pX p pP oUOX q oOT pX pP oEX p pP oUT mNIT oX o oP oEX p pP nAX o oP nUOX p pP nOT oX o",
  "oP nEX o oP nUT oX o oP oRX p mHLIT pX p pP pEX q qP oAT pX p pP oUOX q qP oOX p pP oEX p pP",
  "oUT pX p pP pRX q oYT pX p pP pRX q mLIT oX o oP oET pX p pP nAT oX o oP nUOT pX p pP nOT oX o",
  "oP nEX o oP nUT oX o oP oRX p nYT oX o oP oRX p mGIT oX o oP oET pX p pP nAT oX o oP nUOT pX p",
  "pP nOT oX o oP nET oX o oP nUT oX o oP oRX p mKIT oX o oP oEX p pP nAT oX o oP nUOX p pP nOT",
  "oX o oP nET oX o oP nUT oX o oP oRX p mGGIT pX p pEX q qP oAT pX p pP oUOT qX q qP oOT pX p pP",
  "oET pX p pP oUT pX p pP pRX q mMGIEX q oAT pX p pP oUOX q qP oOT pX p pP oEX p pP oUT pX p pP",
  "pRX q mHXIT pX p pP pET qX q qP oAT pX p pP oUOT qX q qP oOT pX p pP oEX p pP mNGIEX q qP oAT",
  "pX p pP oUOT qX q oOT pX p pP oEX p pP mHIT oEX p nAT oX o oP nUOT pX p pP nOT oX o oP nEX o",
  "oP mWAT oX o oP nUOX p pP nOX o oP nEX o oP mZIT oX o oP oEX p pP nAT oX o oP nUOX p pP nOT oX",
  "o oP nEX o oP nUT oX o oP oRX p nYT oX o oP oRX p mCIT oX o oP oET pX p pP nAT oX o oP nUOX p",
  "pP nOT oX o oP nEX o oP nUT oX o oP oRX p nYT oX o oP oRX p mZZIT pX p pP pET qX q qP oAT pX p",
  "pP oOX p pP oEX p pP oUX p pP pRX q oYT pX p pP pRX q mNZIT pX p pP pEX q qP oAT pX p pP oUOX",
  "q oOX pP oEX p oUX p pP pRX q oYT pX p pP pRX q mSIT oX o oP oEX p pP nAT oX o oP nUOX p pP",
  "nOT oX o oP nEX o oP nUT oX o oP oRX p nYT oX o oP oRX p nSIT pX p pP pEX q qP oAT pX p pP oOT",
  "pX p pP oEX p pP oUT pX p pP oYT pX p pP pRX q mZHAT pX p pP oUOX q qP oOT pX p pP oET pX p pP",
  "oUT pX p pP pRX q oYT pX p pP pRX q mCHAT pX p pP oUOT qX q qP oOT pX p pP oET pX p pP oUX p",
  "pP pRX q oYT pX p pP pRX q mRRAX p oUOX q oOT pX p pP oET pX p pP oUT pX p pP pRX q oYT pX p",
  "pP pRX q mNRAT pX p pP oOX p pP oET pX p pP oUT pX p pP pRX q oYT pX p pP pRX q mSHAT pX p pP",
  "oUOX q qP oOT pX p pP oET pX p pP oUT pX p pP pRX q oYT pX p pP pRX q mRAT oX o oP nUOX p pP",
  "nOT oX o oP nEX o oP nUT oX o oP oRX p nYT oX o oP oRX p mJIT oX o oP oET pX p pP nUOT pX p pP",
  "nOT oX o oP nUT oX o oP oRX p nYT oX o oP oRX p mQIT oX o oP oET pX p pP nUOT pX p pP nOT oX o",
  "oP nUT oX o oP oRX p nYT oX o oP oRX p mJJIT pX p pP pET qX q qP oUOX q qP oOT pX p pP oUT pX",
  "p pP pRX q oYT pX p pP mNJIT pX p pP pET qX q qP oUOX q oOT pX p pP oUX p pP pRX q oYT pX p pP",
  "pRX q nYIT pX p pP pET qX q qP oUOX q qP oOT pX p pP oUT pX p pP mXIT oX o oP oET pX p pP nUOX",
  "p nOT oX o oP nYT oX o oP oRX p mYIT oX o oP oET pX p pP nUOT pX p pP nOT oX o oP nUT oX o oP",
  "oRX p nYT oX o oP oRX p A490=dRADIC%_QOT lLI lKIT lNYIP lCYP lSSI lGGOP mEP lMI lHXIT lLYR",
  "lBBUT lMOP lYO lPUT lHXUO lTAT lGA lZUP lCYT lDDUR lBUR lGGUO lNYOP lTU lOP lJJUT lZOT lPYT",
  "lHMO lYIT lVUR lSHY lVEP lZA lJO lNZUP lJJY lGOT lJJIE lWO lDU lSHUR lLIE lCY mUOP mIP lHXOP",
  "lSHAT lZUR lSHOP lCHE lZZIET lNBIE lKE A4D0=aLISU_+TT,_BA mPA nHA mDA mTA nHA mGA mKA nHA mJA",
  "mCA nHA mDZA mTSA oHA mMA mNA mLA mSA mZHA nA mNGA mHA mXA mHHA mFA mWA mSHA mYA mGHA mA nE mE",
  "nU mI mO mU nE nH mOE mT;E_MYA_^ rNA_PO rMYA_CYA vBO vNA vJEU fPUNCTUA^;_COMMA rFULL<TOP",
  "aVAI<YLLAB+_EE pN nHEE nWEE qN nPEE nBHEE oEE nMBEE nKPEE nMGBEE nGBEE nFEE nVEE nTEE oHEE",
  "nDHEE pHEE n+E n~E nDEE nNDEE nSEE oHEE nZEE oHEE nCEE nJEE nNJEE nYEE nKEE nNGGEE nGEE nMEE",
  "nNEE oYEE nI oN nHI pN nWI pN nPI nBHI oI nMBI nKPI nMGBI nGBI nFI nVI n^ oHI nDHI pHI nLI nRI",
  "nDI nNDI nSI oHI nZI oHI nCI nJI nNJI nYI nKI nNGGI nGI nMI nNI oYI nA oN nNG. nHA pN nWA pN",
  "nPA nBHA oA nMBA nKPA qN nMGBA nGBA nFA nVA nTA oHA nDHA pHA nLA nRA nDA nNDA nSA oHA nZA oHA",
  "nCA nJA nNJA nYA nKA pN nNGGA nGA nMA nNA oYA nOO pN nHOO nWOO qN nPOO nBHOO oOO nMBOO nKPOO",
  "nMGBOO nGBOO nFOO nVOO nTOO oHOO nDHOO pHOO nLOO nROO nDOO nNDOO nSOO oHOO nZOO oHOO nCOO nJOO",
  "nNJOO nYOO nKOO nNGGOO nGOO nMOO nNOO oYOO nU oN nHU pN nWU pN nPU nBHU oU nMBU nKPU nMGBU",
  "nGBU nFU nVU nTU oHU nDHU pHU nLU nRU nDU nNDU nSU oHU nZU oHU nCU nJU nNJU nYU nKU nNGGU nGU",
  "nMU nNU oYU nO oN nNG; nHO pN nWO pN nPO nBHO oO nMBO nKPO nMGBO nGBO qN nFO nVO nTO oHO nDHO",
  "pHO nLO nRO nDO nNDO nSO oHO nZO oHO nCO nJO nNJO nYO nKO nNGGO nGO nMO nNO oYO nE oN nNG[ nHE",
  "pN nWE pN nPE nBHE oE nMBE nKPE qN nMGBE nGBE qN nFE nVE nTE oHE nDHE pHE n+ n~ nDE nNDE nSE",
  "oHE nZE oHE nCE nJE nNJE nYE nKE nNGGE rN nGE pN nME nNE oYE oG n+NGTH[, eCOMMA eFULL<TOP",
  "eQUES^;_M&K eSYLLAB+_NDO+_FA tKA tSOO gMBOL_FE[G lKE[G lT*G lNII lB.G lFAA lTAA lD.G mO;G",
  "lKUNG lT;G lDO-O lJ;G eDIGIT_Z,O k;E kTWO lH~E kFOUR lIVE kSIX lEV[ kE( kN*E eSYLLAB+_NDO+_MA",
  "tDO A640=aCYRILLIC_$ZEMLYA j@ZEMLYA j$DZELO j@DZELO j$~V,SE]DZE j@~V,SE]DZE j$IOTA j@IOTA",
  "j$DJ,V j@DJ,V j$M;OGRAPH_UK j@M;OGRAPH_UK j$BROA]OMEGA j@BROA]OMEGA j$NEUTR%_Y, j@NEUTR%_Y,",
  "j$Y,U#BACK_Y, j@Y,U#BACK_Y, j$IO^FIE]YAT j@IO^FIE]YAT j$~V,SE]YU j@~V,SE]YU j$IO^FIE]A",
  "j@IO^FIE]A j$CLOSE]LITT+_YUS j@CLOSE]LITT+_YUS j$B+NDE]YUS j@B+NDE]YUS",
  "j$IO^FIE]CLOSE]LITT+_YUS j@IO^FIE]CLOSE]LITT+_YUS j$YN j@YN j$~V,SE]TSE j@~V,SE]TSE j$SOFT_DE",
  "j@SOFT_DE j$SOFT_EL j@SOFT_EL j$SOFT_EM j@SOFT_EM j$M;OCUL&_O j@M;OCUL&_O j$B*OCUL&_O",
  "j@B*OCUL&_O j$DOUB+_M;OCUL&_O j@DOUB+_M;OCUL&_O j+TT,_MUL^OCUL&_O bOMB**G_CYRILLIC_VZMET",
  "tT[_MILLI;S<IGN tHUND~]MILLI;S<IGN tTHOUS.]MILLI;S<IGN aSLAV;IC_AST,ISK",
  "aCOMB**G_CYRILLIC_+TT,_UKRA*I._IE baI baYI baU baH&D<IGN baY,U baSOFT<IGN baOMEGA tKAVYKA",
  "tPAY,OK bYRILLIC_KAVYKA jPAY,OK j$DWE j@DWE j$DZWE j@DZWE j$ZHWE j@ZHWE j$CCHE j@CCHE j$DZZE",
  "j@DZZE j$TE#MIDD+_HOOK j@TE#MIDD+_HOOK j$TWE j@TWE j$TSWE j@TSWE j$TSSE j@TSSE j$TCHE j@TCHE",
  "j$HWE j@HWE j$SHWE j@SHWE j$DOUB+_O j@DOUB+_O j$CROSSE]O j@CROSSE]O",
  "aMODIFI,_+TT,_CYRILLIC_H&D<IGN zSOFT<IGN aCOMB**G_CYRILLIC_+TT,_EF baIO^FIE]E aBAMUM_+TT,_A",
  "nKA nU nKU nEE n~E nTAE nO nNYI nI nLA nPA nRII pEE n+EEE nMEEEE nTAA nNDAA oJAEM nM nSUU nMU",
  "nSHII oI oHEUX oEUX nKYEE oET nNUAE p oJUAE nYOQ nSHU nYUQ oA nNSHA nKEUX nPEUX nNJEE oTEE",
  "nPUE nWUE nPEE nFEE nRU nLU nMI nNI n~UX oAE nK[ nNGKWA[ pGA pA nSHO nPUAE nFU oOM nWA nNA nLI",
  "nPI nLOQ nKO nMB[ nR[ nM[ oA n^ nKI nMO oBAA nTET nKPA nT[ nNTUU nSAMBA nFAAMAE nKOVUU pGHOM",
  "gCOMB**G_M&K_KOQND; vTUKW[^S gNJAEMLI gFULL<TOP gCOL; iMMA gSEMICOL; gQUES^;_M&K",
  "A700=aMODIFI,_+TT,_CH*ESE_T;E_Y*_P*G be.G_P*G be*<H.G be.G<H.G be*_QU be.G_QU be*_RU be.G_RU",
  "qEXTRA-HIGH_DOTTE]T;E_B& qHIGH_DOTTE]T;E_B& qMI]DOTTE]T;E_B& qLOW_DOTTE]T;E_B&",
  "qEXTRA-LOW_DOTTE]T;E_B& wHIGH_DOTTE]+FT-STEM_T;E_B& qHIGH_DOTTE]+FT-STEM_T;E_B&",
  "qMI]DOTTE]+FT-STEM_T;E_B& qLOW_DOTTE]+FT-STEM_T;E_B& qEXTRA-LOW_DOTTE]+FT-STEM_T;E_B&",
  "wHIGH_+FT-STEM_T;E_B& qHIGH_+FT-STEM_T;E_B& qMI]+FT-STEM_T;E_B& qLOW_+FT-STEM_T;E_B&",
  "qEXTRA-LOW_+FT-STEM_T;E_B& qDOT_V,^C%_B& uSLASH uHORIZ;T%_B& qLOW,_R(_CORN,_.G+ qRAISE]UP:",
  "xDOWN: xEXCLAMA^;_M&K x*V,TE]EXCLAMA^;_M&K qLOW_*V,TE]EXCLAMA^;_M&K qST~SS_.]HIGH_T;E",
  "bbLOW_T;E aLAT*_$EGYPTOLOGIC%_%EF g@EGYPTOLOGIC%_%EF g$EGYPTOLOGIC%_A* g@EGYPTOLOGIC%_A* g$H[G",
  "g@H[G g$TZ g@TZ g$T~SILLO g@T~SILLO g$CUATRILLO g@CUATRILLO g$CUATRILLO#COMMA",
  "g@CUATRILLO#COMMA g+TT,<M%L_CAPIT%_F bbS g$AA g@AA g$AO g@AO g$AU g@AU g$AV g@AV",
  "g$AV#HORIZ;T%_B& g@AV#HORIZ;T%_B& g$AY g@AY g$~V,SE]C#DOT g@~V,SE]C#DOT g$K#STROKE g@K#STROKE",
  "g$K#DIAG;%<TROKE g@K#DIAG;%<TROKE g$K#STROKE_.]DIAG;%<TROKE g@K#STROKE_.]DIAG;%<TROKE",
  "g$BROK[_L g@BROK[_L g$L#HIGH<TROKE g@L#HIGH<TROKE g$O#L;G<TROKE_OV,LAY g@O#L;G<TROKE_OV,LAY",
  "g$O#LOOP g@O#LOOP g$OO g@OO g$P#STROKE_THROUGH_DESC[D, g@P#STROKE_THROUGH_DESC[D, g$P#FLOURISH",
  "g@P#FLOURISH g$P#SQUIR~L_TAIL g@P#SQUIR~L_TAIL g$Q#STROKE_THROUGH_DESC[D,",
  "g@Q#STROKE_THROUGH_DESC[D, g$Q#DIAG;%<TROKE g@Q#DIAG;%<TROKE g$R_ROTUNDA g@R_ROTUNDA",
  "g$RUM_ROTUNDA g@RUM_ROTUNDA g$V#DIAG;%<TROKE g@V#DIAG;%<TROKE g$VY g@VY g$VISIGOTHIC_Z",
  "g@VISIGOTHIC_Z g$THORN#STROKE g@THORN#STROKE g$THORN#STROKE_THROUGH_DESC[D,",
  "g@THORN#STROKE_THROUGH_DESC[D, g$V[D g@V[D g$ET g@ET g$IS g@IS g$C; g@C; aMODIFI,_+TT,_US",
  "aLAT*<M%!DUM tLUM tMUM tNUM tRUM g+TT,<M%L_CAPIT%_RUM g@TUM tUM g$*SUL&_D g@*SUL&_D g$*SUL&_F",
  "g@*SUL&_F g$*SUL&_G vTURNE]*SUL&_G g@TURNE]*SUL&_G g$TURNE]L g@TURNE]L g$*SUL&_R g@*SUL&_R",
  "g$*SUL&< g@*SUL&< g$*SUL&_T g@*SUL&_T aMODIFI,_+TT,_LOW_CIRCUMF+X_ACC[T qCOL; qSHORT_EQU%S<IGN",
  "aLAT*_$S%^LLO g@S%^LLO g$TURNE]H g@L#~TROF+X_HOOK_.]BELT g+TT,<*OLOGIC%_DOT g$N#DESC[D,",
  "g@N#DESC[D, g$C#B& g@C#B& baP%AT%_HOOK tH#P%AT%_HOOK g$B#FLOURISH g@B#FLOURISH g$F#STROKE",
  "g@F#STROKE g$VOLAPUK_AE g@VOLAPUK_AE g$VOLAPUK_OE g@VOLAPUK_OE g$VOLAPUK_UE g@VOLAPUK_UE",
  "g$G#OBLIQUE<TROKE g@G#OBLIQUE<TROKE g$K#OBLIQUE<TROKE g@K#OBLIQUE<TROKE g$N#OBLIQUE<TROKE",
  "g@N#OBLIQUE<TROKE g$R#OBLIQUE<TROKE g@R#OBLIQUE<TROKE g$S#OBLIQUE<TROKE g@S#OBLIQUE<TROKE",
  "g$H#HOOK v~V,SE]OP[_E vSCRIPT_G vL#BELT vSM%L_CAPIT%_I g+TT,<M%L_CAPIT%_Q g$TURNE]K bcT",
  "vJ#CROSSED-TAIL vCHI vBETA g@BETA g$OMEGA g@OMEGA g$U#STROKE g@U#STROKE g$GLOTT%_A g@GLOTT%_A",
  "g$GLOTT%_I g@GLOTT%_I g$GLOTT%_U g@GLOTT%_U g$OL]POLISH_O g@OL]POLISH_O g$.GLIC.A_W",
  "g@.GLIC.A_W g$C#P%AT%_HOOK vS#HOOK vZ#P%AT%_HOOK vD#SHORT<TROKE_OV,LAY g@D#SHORT<TROKE_OV,LAY",
  "g$S#SHORT<TROKE_OV,LAY g@S#SHORT<TROKE_OV,LAY A7D0=g$CLOSE]*SUL&_G g@CLOSE]*SUL&_G",
  "A7D3=tDOUB+_THORN A7D5=baWYNN g$MIDD+<COTS< g@MIDD+<COTS< g$SIGMOID< g@SIGMOID<",
  "A7F2=aMODIFI,_+TT,_CAPIT%_C yF yQ aLAT*_$~V,SE]H%F_H g@~V,SE]H%F_H gEPIGRAPHIC_+TT,<IDEWAYS_I",
  "aMODIFI,_+TT,_CAPIT%_H#STROKE qSM%L_LIGATU~_OE aLAT*_+TT,<M%L_CAPIT%_TURNE]M",
  "gEPIGRAPHIC_+TT,_~V,SE]F bhP y*V,TE]M z_L;GA y&CHAIC_M aSYLO^_NAGRI_+TT,_A uI nSIGN_DVISV&A",
  "n+TT,_U uE uO nSIGN_HAS.TA n+TT,_KO vHO uGO vHO nSIGN_.USV&A n+TT,_CO vHO uJO vHO uTTO wHO",
  "uDDO wHO uTO vHO uDO vHO uNO uPO vHO uBO vHO uMO uRO uLO uRRO uSO uHO nVOWEL<IGN_A yI yU yE",
  "yOO nPOETRY_M&K-1 z2 z3 z4 nSIGN_%T,NATE_HAS.TA A830=aNORTH_*DIC_FRAC^;_;E_QU&T, zH%F",
  "vTH~E_QU&T,S v;E<IXTE[TH zE(H vTH~E<IXTE[THS mQU&T,_M&K mPLACEHOLD,_M&K mRUPEE_M&K mQU.^TY_M&K",
  "A840=aPHAGS-PA_+TT,_KA rHA qGA qNGA qCA rHA qJA qNYA qTA rHA qDA qNA qPA rHA qBA qMA qTSA sHA",
  "qDZA qWA qZHA rA qSM%L_A qYA qRA qLA qSHA rA qHA qA qI qU qE qO qQA qXA qFA qGGA qEE",
  "jSUBJO*E]+TT,_WA baYA j+TT,_TTA sHA qDDA qNNA q%T,NATE_YA qVOICE+SS<HA v]HA qASPIRATE]FA",
  "jSUBJO*E]+TT,_RA lP,FIXE]+TT,_RA j+TT,_C.DRAB*DU jS*G+_HEA]M&K jDOUB+_HEA]M&K jM&K<HAD",
  "oDOUB+<HAD A880=aSAURASHTRA<IGN_.USV&A qVIS&GA l+TT,_A tA sI tI sU tU sVOC%IC_R bbR baL bbL sE",
  "tE sAI sO tO sAU sKA tHA sGA tHA sNGA sCA tHA sJA tHA sNYA sTTA uHA sDDA uHA sNNA sTA tHA sDA",
  "tHA sNA sPA tHA sBA tHA sMA sYA sRA sLA sVA sSHA tSA tA sHA sLLA lC;S;.T<IGN_HA&U",
  "lVOWEL<IGN_AA wI xI wU xU wVOC%IC_R bfR beL bfL wE xE wAI wO xO wAU lSIGN_VIRAMA qC.DRAB*DU",
  "A8CE=lD.DA mOUB+_D.DA mIGIT_Z,O r;E rTWO sH~E rFOUR sIVE rSIX sEV[ rE( rN*E",
  "A8E0=aCOMB**G_DEV.AG&I_DIGIT_Z,O bb;E bbTWO bcH~E bbFOUR bcIVE bbSIX bcEV[ bbE( bbN*E v+TT,_A",
  "bcU bcKA bcNA bcPA bcRA bcVI vSIGN_AVAGRAHA aDEV.AG&I<IGN<PAC*G_C.DRAB*DU qC.DRAB*DU_VIRAMA",
  "qDOUB+_C.DRAB*DU_VIRAMA qC.DRAB*DU_TWO bdH~E bcAVAGRAHA qPUSHPIKA lGAP_FIL+R lC&ET lHEADSTROKE",
  "lSIGN<IDDHAM lJA*_OM l+TT,_AY lVOWEL<IGN_AY aKAYAH_LI_DIGIT_Z,O p;E pTWO qH~E pFOUR qIVE pSIX",
  "qEV[ pE( pN*E j+TT,_KA rHA qGA qNGA qSA rHA qZA qNYA qTA qHTA qNA qPA rHA qMA qDA qBA qRA qYA",
  "qLA qWA qTHA qHA qVA qCA qA qOE qI qOO jVOWEL_UE pE pU pEE pO jT;E_PLOPHU oC%YA t_PLOPHU",
  "jSIGN_CWI oSHYA a~J.G_+TT,_KA oGA oNGA oTA oDA oNA oPA oBA oMA oCA oJA oNYA oSA oRA oLA oYA",
  "oWA oHA oMBA oNGGA pDA pYJA oA hVOWEL<IGN_I sU sE sAI sO sAU sEU tA hC;S;.T<IGN_NG x wR wH",
  "hVIRAMA A95F=hSEC^;_M&K aH.GUL_CHOSE;G_^KEUT-MIEUM xPIEUP xSIOS xCIEUC qRIEUL-KIYEOK",
  "wSS.GKIYEOK w^KEUT wSS.G^KEUT wMIEUM wPIEUP wSS.GPIEUP wKAPYEOUNPIEUP wSIOS wCIEUC wKHIEUKH",
  "qMIEUM-KIYEOK w^KEUT wSIOS qPIEUP-SIOS-THIEUTH wKHIEUKH wHIEUH qSS.GSIOS-PIEUP qIEUNG-RIEUL",
  "wHIEUH qSS.GCIEUC-HIEUH vTHIEUTH qPHIEUPH-HIEUH qHIEUH-SIOS qSS.GYEOR*HIEUH",
  "A980=aJAV.ESE<IGN_P.Y.GGA oCECAK oLAY& oWIGNY. j+TT,_A qI_KAWI r rI qU qPA_C,EK qNGA_++T",
  "z_RASWADI qE qAI qO qKA s<ASAK tMURDA qGA s_MURDA qNGA qCA s_MURDA qJA qNYA_MURDA qJA_MAHAPR.A",
  "qNYA qTTA t_MAHAPR.A qDDA t_MAHAPR.A qNA_MURDA qTA s_MURDA qDA s_MAHAPR.A qNA qPA s_MURDA qBA",
  "s_MURDA qMA qYA qRA s_AGUNG qLA qWA qSA_MURDA uAHAPR.A s qHA jSIGN_CECAK_TELU jVOWEL<IGN_T&UNG",
  "vOL;G uWULU y_MELIK uSUKU y_M[DUT uT%*G uDIRGA_MU~ uPEPET jC;S;.T<IGN_K,ET yP[GK% yCAKRA"]

/-- Names from code point A9C0 on. -/
def namesFromA9C0 : List String := [
  "jP.GK; j+FT_R,[GG. jR(_R,[GG. jPADA_.DAP oMADYA oLUHUR oW*DU oP.GKAT oL*GSA pUNGSI oADEG",
  "s_ADEG oPISE+H jTURNE]PADA_PISE+H A9CF=jP.GR.GKEP jDIGIT_Z,O p;E pTWO qH~E pFOUR qIVE pSIX",
  "qEV[ pE( pN*E A9DE=jPADA_^RTA_TUMETES oIS[-IS[ aMY.M&_+TT,<H._GHA uCHA uJHA uNNA uBHA",
  "iSIGN<H.<AW iMODIFI,_+TT,<H._~DUPLICA^; i+TT,_TAI_LA*G_NYA zFA zGA baHA zJA baHA zDDA bbHA",
  "zNNA iTAI_LA*G_DIGIT_Z,O y;E yTWO zH~E yFOUR zIVE ySIX zEV[ yE( yN*E i+TT,_TAI_LA*G_LLA zDA",
  "baHA zBA baHA AA00=aCHAM_+TT,_A mI mU mE mAI mO mKA nHA mGA nHA mNGUE oA mCHA oHA mJA nHA",
  "mNHUE oA oJA mTA nHA mDA nHA mNUE nA mDDA mPA nPA nHA mBA nHA mMUE nA mBBA mYA mRA mLA mVA",
  "mSSA nA mHA fVOWEL<IGN_AA qI rI qEI qU qOE r qAI rU qUE fC;S;.T<IGN_YA uRA uLA uWA",
  "AA40=f+TT,_F*%_K sG sNG fC;S;.T<IGN_F*%_NG f+TT,_F*%_CH sT sN sP sY sR sL sSS",
  "fC;S;.T<IGN_F*%_M baH AA50=fDIGIT_Z,O l;E lTWO mH~E lFOUR mIVE lSIX mEV[ lE( lN*E",
  "AA5C=fPUNCTUA^;<PIR% rD.DA sOUB+_D.DA rTRIP+_D.DA aMY.M&_+TT,_KHAM^_GA wCA xHA wJA xHA wNYA",
  "wTTA yHA wDDA yHA xHA wNA wSA wHA xHA wFA iMODIFI,_+TT,_KHAM^_~DUPLICA^; i+TT,_KHAM^_XA wZA",
  "wRA jOGOGRAM_KHAM^_OAY yQN yHM iSYMBOL_AIT;_EXCLAMA^; v;E vTWO i+TT,_AIT;_RA iSIGN_PAO_K&[_T;E",
  "nTAI_LA*G_T;E-2 bc5 i+TT,<HWE_P%AUNG_CHA bcSHA aTAI_VIET_+TT,_LOW_KO qHIGH_KO qLOW_KHO",
  "qHIGH_KHO qLOW_KHHO qHIGH_KHHO qLOW_GO qHIGH_GO qLOW_NGO qHIGH_NGO qLOW_CO qHIGH_CO qLOW_CHO",
  "qHIGH_CHO qLOW<O qHIGH<O qLOW_NYO qHIGH_NYO qLOW_DO qHIGH_DO qLOW_TO qHIGH_TO qLOW_THO",
  "qHIGH_THO qLOW_NO qHIGH_NO qLOW_BO qHIGH_BO qLOW_PO qHIGH_PO qLOW_PHO qHIGH_PHO qLOW_FO",
  "qHIGH_FO qLOW_MO qHIGH_MO qLOW_YO qHIGH_YO qLOW_RO qHIGH_RO qLOW_LO qHIGH_LO qLOW_VO qHIGH_VO",
  "qLOW_HO qHIGH_HO qLOW_O qHIGH_O jMAI_K.G jVOWEL_AA pI pUE q pE pO jMAI_KHIT jVOWEL_IA pUEA qA",
  "pAUE qY qN qM jT;E_MAI_EK sNU[G sTHO sS;G AADB=jSYMBOL_K; qNU[G qSAM qHO_HOI qKOI_KOI",
  "aMEETEI_MAYEK_+TT,_E uO uCHA uNYA uTTA wHA uDDA wHA uNNA uSHA vSA nVOWEL<IGN_II yUU yAAI zU",
  "zAU nCHEIKH. nAH.G_KHUDAM oNJI nSYLLAB+_~PE^^;_M&K nWOR]~PE^^;_M&K nVOWEL<IGN_VIS&GA oIRAMA",
  "AB01=aETHIOPIC<YLLAB+_TTHU vI vAA vEE w vO AB09=sDDHU vI vAA vEE w vO AB11=tZU uI uAA uEE v uO",
  "AB20=sCCHHA wU wI wAA wEE x wO AB28=sBBA uU uI uAA uEE v uO AB30=aLAT*<M%!B&~]%PHA",
  "tA_~V,SED-SCHWA tBLACK+TT,_E u&~]E tE#FLOURISH t+NIS_F tSCRIPT_G#CROSSED-TAIL tL#*V,TE]LAZY<",
  "baDOUB+_MIDD+_^LDE baMIDD+_R*G tM#CROSSED-TAIL tN#CROSSED-TAIL t[G#CROSSED-TAIL tBLACK+TT,_O",
  "bg#STROKE tOP[_O#STROKE t*V,TE]OE tTURNE]OE#STROKE biHORIZ;T%<TROKE bb_OP[-O bi#STROKE",
  "tS^RRUP_R g+TT,<M%L_CAPIT%_R#R(_+G g@R_WITHOUT_H.D+ tDOUB+_R tR#CROSSED-TAIL",
  "tDOUB+_R#CROSSED-TAIL tSCRIPT_R bb#R*G tBASEL*E_ESH tU#SHORT_R(_+G vB&#SHORT_R(_+G uI",
  "tTURNE]UI tU#+FT_HOOK tCHI w#LOW_R(_R*G bg+FT<,IF tX#LOW_R(_R*G bcNG_+FT_+G bn_.]LOW_R(_R*G",
  "boWITH<,IF tY#SHORT_R(_+G aMODIFI,_B~VE#*V,TE]B~VE j+TT,<M%L_H[G wL#*V,TE]LAZY< bdMIDD+_^LDE",
  "wU#+FT_HOOK aLAT*<M%!SAKHA_YAT tIO^FIE]E tOP[_OE tUO t*V,TE]%PHA aG~EK_+TT,<M%L_CAPIT%_OMEGA",
  "aLAT*<M%!DZ_DIGRAPH#~TROF+X_HOOK tTS_DIGRAPH#~TROF+X_HOOK uURNE]R#MIDD+_^LDE",
  "aMODIFI,_+TT,<M%L_TURNE]W q+FT_TACK qR(_TACK AB70=aCH,OKEE<M%!A wE wI wO wU wV wGA wKA wGE xI",
  "xO xU xV wHA xE xI xO xU xV wLA xE xI xO xU xV wMA xE xI xO xU wNA wHNA wNAH xE xI xO xU xV",
  "wQUA yE yI yO yU yV wSA x xE xI xO xU xV wDA wTA wDE wTE wDI w^ wDO xU xV xLA wTLA yE yI yO yU",
  "yV xSA yE yI yO yU yV wWA xE xI xO xU xV wYA aMEETEI_MAYEK_+TT,_KOK uSAM uLAI uMIT uPA uNA",
  "uCHIL u^L uKHOU uNGOU uTHOU uWAI uY.G uHUK uUN uI uPHAM uA^YA uGOK uJHAM uRAI uBA uJIL uDIL",
  "uGHOU uDHOU uBHAM uKOK_L;SUM uLAI_L;SUM uMIT_L;SUM uPA_L;SUM uNA_L;SUM u^L_L;SUM uNGOU_L;SUM",
  "uI_L;SUM nVOWEL<IGN_;AP y*AP y.AP yY[AP ySOUNAP yUNAP yCHE*AP yNUNG nCHEIKHEI nLUM_IYEK",
  "nAPUN_IYEK ABF0=nDIGIT_Z,O t;E tTWO uH~E tFOUR uIVE tSIX uEV[ tE( tN*E",
  "D7B0=aH.GUL_JUNGSE;G_O-YEO tO-I rYO-A vE uEO rU-YEO tI-I rYU-AE uO rEU-A uEO v uO rI-YA-O vE",
  "uEO v tO-I tYO uU tI r&AEA-A xE D7CB=i;GSE;G_NIEUN-RIEUL xCHIEUCH rSS.G^KEUT bc-PIEUP",
  "r^KEUT-PIEUP ySIOS bc-KIYEOK yCIEUC zHIEUCH yTHIEUTH rRIEUL-SS.GKIYEOK xKIYEOK-HIEUH",
  "rSS.GRIEUL-KHIEUKH rRIEUL-MIEUM-HIEUH xPIEUP-^KEUT bdPHIEUPH xYESIEUNG zOR*HIEUH-HIEUH",
  "rKAPYEOUNRIEUL rMIEUM-NIEUN xSS.GNIEUN rSS.GMIEUM rMIEUM-PIEUP-SIOS xCIEUC rPIEUP-^KEUT",
  "xRIEUL-PHIEUPH xMIEUM rSS.GPIEUP rPIEUP-SIOS-^KEUT xCIEUC yHIEUCH rSIOS-MIEUM wKAPYEOUNPIEUP",
  "sS.GSIOS-KIYEOK bb^KEUT sIOS-P.SIOS wCIEUC xHIEUCH wTHIEUTH wHIEUH rP.SIOS-PIEUP",
  "zKAPYEOUNPIEUP rYESIEUNG-MIEUM baHIEUH rCIEUC-PIEUP xSS.GPIEUP rSS.GCIEUC rPHIEUPH-SIOS",
  "zTHIEUTH FB00=aLAT*<M%L_LIGATU~_FF wI wL wFI xL vL;G<_T vST FB13=a&M[I.<M%L_LIGATU~_M[_NOW",
  "bcECH bc*I yVEW_NOW yM[_XEH FB1D=aHEB~W_+TT,_YOD#HIRIQ hPO*T_JUDEO-SP.ISH_V&IKA",
  "hLIGATU~_YIDDISH_YO]YO]PATAH iETT,_%T,NA^VE_AY* oWIDE_%EF tD%ET tHE tKAF tLAMED tF*%_MEM t~SH",
  "tTAV o%T,NA^VE_PLUS<IGN oSH*#SH*_DOT z*_DOT yDAGESH_.D<H*_DOT bk*_DOT o%EF#PATAH yQAMATS",
  "yMAPIQ oBET#DAGESH oGIMEL#DAGESH oD%ET#DAGESH oHE#MAPIQ oVAV#DAGESH oZAY*#DAGESH",
  "FB38=oTET#DAGESH oYOD#DAGESH oF*%_KAF#DAGESH oKAF#DAGESH oLAMED#DAGESH FB3E=oMEM#DAGESH",
  "FB40=oNUN#DAGESH oSAMEKH#DAGESH FB43=oF*%_PE#DAGESH oPE#DAGESH FB46=oTSADI#DAGESH oQOF#DAGESH",
  "o~SH#DAGESH oSH*#DAGESH oTAV#DAGESH oVAV#HOLAM oBET#RAFE oKAF#RAFE oPE#RAFE iIGATU~_%EF_LAMED",
  "a&ABIC_+TT,_%EF_WASLA> zF*%) oBEEH> tF*%) t*I^%) tMEDI%) oPEH> sF*%) s*I^%) sMEDI%) oBEHEH>",
  "uF*%) u*I^%) uMEDI%) oTTEHEH> vF*%) v*I^%) vMEDI%) pEHEH> uF*%) u*I^%) uMEDI%) pTEH> tF*%)",
  "t*I^%) tMEDI%) oVEH> sF*%) s*I^%) sMEDI%) oPEHEH> uF*%) u*I^%) uMEDI%) oDYEH> tF*%) t*I^%)",
  "tMEDI%) oNYEH> tF*%) t*I^%) tMEDI%) oTCHEH> uF*%) u*I^%) uMEDI%) tEH> wF*%) w*I^%) wMEDI%)",
  "oDDAH%> vF*%) pAH%> uF*%) pUL> sF*%) pD%> tF*%) oJEH> sF*%) oR~H> tF*%) oKEHEH> uF*%) u*I^%)",
  "uMEDI%) oGAF> sF*%) s*I^%) sMEDI%) pUEH> tF*%) t*I^%) tMEDI%) oNGOEH> uF*%) u*I^%) uMEDI%)",
  "pO;_GHUNNA> baF*%) oRNO;> uF*%) u*I^%) uMEDI%) oHEH#YEH?> bhF*%) sGO%> xF*%) x*I^%) xMEDI%)",
  "sDOACHASHMEE> beF*%) be*I^%) beMEDI%) oYEH_B&~E> zF*%) zWITH_HAMZA?> bqF*%) hSYMBOL_DOT?",
  "sBELOW oTWO_DOTS? xBELOW pH~E_DOTS? zBELOW zPO*T*G_DOWN|? bsBELOW oFOUR_DOTS? yBELOW",
  "oDOUB+_V,^C%_B&_BELOW oTWO_DOTS_V,^C%LY? biBELOW oR*G oSM%L_TAH? yBELOW oWASLA? FBD3=h+TT,_NG>",
  "rF*%) r*I^%) rMEDI%) oU> qF*%) oOE> rF*%) oYU> rF*%) oU#HAMZA?> oVE> rF*%) oKIRGHIZ_OE> zF*%)",
  "wYU> zF*%) oE> qF*%) q*I^%) qMEDI%) oUIGHUR_KAZAKH_KIRGHIZ_%EF_MAKSURA_*I^%) bxMEDI%)",
  "iIGATU~_YEH#HAMZA?#%EF> bvF*%) brE> btF*%) bqWAW> buF*%) bqU> bsF*%) bqOE> btF*%) bqYU> btF*%)",
  "bqE> bsF*%) bs*I^%) qUIGHUR_KIRGHIZ_YEH#HAMZA?#%EF_MAKSURA> csF*%) cs*I^%) iETT,_F&SI_YEH>",
  "yF*%) y*I^%) yMEDI%) iIGATU~_YEH#HAMZA?#JEEM> bqHAH> bqMEEM> bq%EF_MAKSURA> bqYEH> qBEH#JEEM>",
  "zHAH> zKHAH> zMEEM> z%EF_MAKSURA> zYEH> qTEH#JEEM> zHAH> zKHAH> zMEEM> z%EF_MAKSURA> zYEH>",
  "rHEH#JEEM> baMEEM> ba%EF_MAKSURA> baYEH> qJEEM#HAH> baMEEM> qHAH#JEEM> zMEEM> qKHAH#JEEM>",
  "baHAH> baMEEM> qSE[#JEEM> baHAH> baKHAH> baMEEM> rAD#HAH> zMEEM> qDAD#JEEM> zHAH> zKHAH>",
  "zMEEM> qTAH#HAH> zMEEM> qZAH#MEEM> qA*#JEEM> zMEEM> qGHA*#JEEM> bbMEEM> qFEH#JEEM> zHAH>",
  "zKHAH> zMEEM> z%EF_MAKSURA> zYEH> qQAF#HAH> zMEEM> z%EF_MAKSURA> zYEH> qKAF#%EF> zJEEM> zHAH>",
  "zKHAH> zLAM> zMEEM> z%EF_MAKSURA> zYEH> qLAM#JEEM> zHAH> zKHAH> zMEEM> z%EF_MAKSURA> zYEH>",
  "qMEEM#JEEM> baHAH> baKHAH> baMEEM> ba%EF_MAKSURA> baYEH> qNO;#JEEM> baHAH> baKHAH> baMEEM>",
  "ba%EF_MAKSURA> baYEH> qHEH#JEEM> zMEEM> z%EF_MAKSURA> zYEH> qYEH#JEEM> zHAH> zKHAH> zMEEM>",
  "z%EF_MAKSURA> zYEH> qTH%#SUP,SCRIPT_%EF> q~H#SUP,SCRIPT_%EF> q%EF_MAKSURA#SUP,SCRIPT_%EF>",
  "qSHADDA#DAMMAT.> bcKASRAT.> bcFATHA> bcDAMMA> bcKASRA> bcSUP,SCRIPT_%EF> qYEH#HAMZA?#~H_F*%)",
  "bqZA*_F*%) bqMEEM_F*%) bqNO;_F*%) bq%EF_MAKSURA_F*%) bqYEH_F*%) qBEH#~H_F*%) zZA*_F*%)",
  "zMEEM_F*%) zNO;_F*%) z%EF_MAKSURA_F*%) zYEH_F*%) qTEH#~H_F*%) zZA*_F*%) zMEEM_F*%) zNO;_F*%)",
  "z%EF_MAKSURA_F*%) zYEH_F*%) rHEH#~H_F*%) baZA*_F*%) baMEEM_F*%) baNO;_F*%) ba%EF_MAKSURA_F*%)",
  "baYEH_F*%) qFEH#%EF_MAKSURA_F*%) zYEH_F*%) qQAF#%EF_MAKSURA_F*%) zYEH_F*%) qKAF#%EF_F*%)",
  "zLAM_F*%) zMEEM_F*%) z%EF_MAKSURA_F*%) zYEH_F*%) qLAM#MEEM_F*%) z%EF_MAKSURA_F*%) zYEH_F*%)",
  "qMEEM#%EF_F*%) baMEEM_F*%) qNO;#~H_F*%) baZA*_F*%) baMEEM_F*%) baNO;_F*%) ba%EF_MAKSURA_F*%)",
  "baYEH_F*%) q%EF_MAKSURA#SUP,SCRIPT_%EF_F*%) qYEH#~H_F*%) zZA*_F*%) zMEEM_F*%) zNO;_F*%)",
  "z%EF_MAKSURA_F*%) zYEH_F*%) zHAMZA?#JEEM_*I^%) bqHAH_*I^%) bqKHAH_*I^%) bqMEEM_*I^%)",
  "bqHEH_*I^%) qBEH#JEEM_*I^%) zHAH_*I^%) zKHAH_*I^%) zMEEM_*I^%) zHEH_*I^%) qTEH#JEEM_*I^%)",
  "zHAH_*I^%) zKHAH_*I^%) zMEEM_*I^%) zHEH_*I^%) rHEH#MEEM_*I^%) qJEEM#HAH_*I^%) baMEEM_*I^%)",
  "qHAH#JEEM_*I^%) zMEEM_*I^%) qKHAH#JEEM_*I^%) baMEEM_*I^%) qSE[#JEEM_*I^%) baHAH_*I^%)",
  "baKHAH_*I^%) baMEEM_*I^%) rAD#HAH_*I^%) zKHAH_*I^%) zMEEM_*I^%) qDAD#JEEM_*I^%) zHAH_*I^%)",
  "zKHAH_*I^%) zMEEM_*I^%) qTAH#HAH_*I^%) qZAH#MEEM_*I^%) qA*#JEEM_*I^%) zMEEM_*I^%)",
  "qGHA*#JEEM_*I^%) bbMEEM_*I^%) qFEH#JEEM_*I^%) zHAH_*I^%) zKHAH_*I^%) zMEEM_*I^%)",
  "qQAF#HAH_*I^%) zMEEM_*I^%) qKAF#JEEM_*I^%) zHAH_*I^%) zKHAH_*I^%) zLAM_*I^%) zMEEM_*I^%)",
  "qLAM#JEEM_*I^%) zHAH_*I^%) zKHAH_*I^%) zMEEM_*I^%) zHEH_*I^%) qMEEM#JEEM_*I^%) baHAH_*I^%)",
  "baKHAH_*I^%) baMEEM_*I^%) qNO;#JEEM_*I^%) baHAH_*I^%) baKHAH_*I^%) baMEEM_*I^%) baHEH_*I^%)",
  "qHEH#JEEM_*I^%) zMEEM_*I^%) zSUP,SCRIPT_%EF_*I^%) qYEH#JEEM_*I^%) zHAH_*I^%) zKHAH_*I^%)",
  "zMEEM_*I^%) zHEH_*I^%) baAMZA?#MEEM_MEDI%) bqHEH_MEDI%) qBEH#MEEM_MEDI%) zHEH_MEDI%)",
  "qTEH#MEEM_MEDI%) zHEH_MEDI%) rHEH#MEEM_MEDI%) baHEH_MEDI%) qSE[#MEEM_MEDI%) baHEH_MEDI%)",
  "rHE[#MEEM_MEDI%) bbHEH_MEDI%) qKAF#LAM_MEDI%) zMEEM_MEDI%) qLAM#MEEM_MEDI%) qNO;#MEEM_MEDI%)",
  "baHEH_MEDI%) qYEH#MEEM_MEDI%) zHEH_MEDI%) qSHADDA#FATHA_MEDI%) bcDAMMA_MEDI%) bcKASRA_MEDI%)",
  "qTAH#%EF_MAKSURA> zYEH> qA*#%EF_MAKSURA> zYEH> qGHA*#%EF_MAKSURA> bbYEH> qSE[#%EF_MAKSURA>",
  "baYEH> rHE[#%EF_MAKSURA> bbYEH> qHAH#%EF_MAKSURA> zYEH> qJEEM#%EF_MAKSURA> baYEH>",
  "qKHAH#%EF_MAKSURA> baYEH> qSAD#%EF_MAKSURA> zYEH> qDAD#%EF_MAKSURA> zYEH> qSHE[#JEEM> bbHAH>",
  "bbKHAH> bbMEEM> bb~H> rE[#~H> rAD#~H> qDAD#~H> qTAH#%EF_MAKSURA_F*%) zYEH_F*%)",
  "qA*#%EF_MAKSURA_F*%) zYEH_F*%) qGHA*#%EF_MAKSURA_F*%) bbYEH_F*%) qSE[#%EF_MAKSURA_F*%)",
  "baYEH_F*%) rHE[#%EF_MAKSURA_F*%) bbYEH_F*%) qHAH#%EF_MAKSURA_F*%) zYEH_F*%)",
  "qJEEM#%EF_MAKSURA_F*%) baYEH_F*%) qKHAH#%EF_MAKSURA_F*%) baYEH_F*%) qSAD#%EF_MAKSURA_F*%)",
  "zYEH_F*%) qDAD#%EF_MAKSURA_F*%) zYEH_F*%) qSHE[#JEEM_F*%) bbHAH_F*%) bbKHAH_F*%) bbMEEM_F*%)",
  "bb~H_F*%) rE[#~H_F*%) rAD#~H_F*%) qDAD#~H_F*%) qSHE[#JEEM_*I^%) bbHAH_*I^%) bbKHAH_*I^%)",
  "bbMEEM_*I^%) rE[#HEH_*I^%) rHE[#HEH_*I^%) qTAH#MEEM_*I^%) qSE[#JEEM_MEDI%) baHAH_MEDI%)",
  "baKHAH_MEDI%) rHE[#JEEM_MEDI%) bbHAH_MEDI%) bbKHAH_MEDI%) qTAH#MEEM_MEDI%) qZAH#MEEM_MEDI%)",
  "q%EF#FATHAT._F*%) bjISOLATED) aORNATE_+FT_P&[THESIS hR(_P&[THESIS",
  "a&ABIC_LIGATU~_RAHIMAHU_%LAAH sDI_%LAAHU_.H bgAA bgUM biAA bhNNA qS%L%LAAHU_%AYHI_WA-A%IH",
  "q%AYHI_AS-S%AAM wM_AS-S%AAM xAA_AS-S%AAM w_AS-S%AATU_WAS-S%AAM qQUDDISA<IRRAH",
  "qS%L%LAHU_%AYHI_WAA%IHEE_WA-S%LAM q%AYHAA_AS-S%AAM qTABA&AKA_WA-TAA%AA qRAHIMAHUM_%LAAH",
  "qTEH#JEEM#MEEM_*I^%) zHAH#JEEM_F*%) bn*I^%) biMEEM_*I^%) zKHAH#MEEM_*I^%) zMEEM#JEEM_*I^%)",
  "bjHAH_*I^%) bjKHAH_*I^%) qJEEM#MEEM#HAH_F*%) bo*I^%) qHAH#MEEM#YEH_F*%) bj%EF_MAKSURA_F*%)",
  "qSE[#HAH#JEEM_*I^%) baJEEM#HAH_*I^%) bk%EF_MAKSURA_F*%) baMEEM#HAH_F*%) bo*I^%) bkJEEM_*I^%)",
  "bkMEEM_F*%) bp*I^%) rAD#HAH#HAH_F*%) bm*I^%) zMEEM#MEEM_F*%) rHE[#HAH#MEEM_F*%) bp*I^%)",
  "bbJEEM#YEH_F*%) bbMEEM#KHAH_F*%) bq*I^%) blMEEM_F*%) bq*I^%) qDAD#HAH#%EF_MAKSURA_F*%)",
  "zKHAH#MEEM_F*%) bo*I^%) qTAH#MEEM#HAH_F*%) bn*I^%) bjMEEM_*I^%) bjYEH_F*%) qA*#JEEM#MEEM_F*%)",
  "zMEEM#MEEM_F*%) bo*I^%) bj%EF_MAKSURA_F*%) qGHA*#MEEM#MEEM_F*%) blYEH_F*%) bl%EF_MAKSURA_F*%)",
  "qFEH#KHAH#MEEM_F*%) bo*I^%) qQAF#MEEM#HAH_F*%) bjMEEM_F*%) qLAM#HAH#MEEM_F*%) biYEH_F*%)",
  "bi%EF_MAKSURA_F*%) zJEEM#JEEM_*I^%) boF*%) zKHAH#MEEM_F*%) bo*I^%) zMEEM#HAH_F*%) bn*I^%)",
  "qMEEM#HAH#JEEM_*I^%) bjMEEM_*I^%) bjYEH_F*%) baJEEM#HAH_*I^%) bkMEEM_*I^%) baKHAH#JEEM_*I^%)",
  "bkMEEM_*I^%) FD92=baJEEM#KHAH_*I^%) qHEH#MEEM#JEEM_*I^%) bjMEEM_*I^%) qNO;#HAH#MEEM_*I^%)",
  "bj%EF_MAKSURA_F*%) baJEEM#MEEM_F*%) bp*I^%) bk%EF_MAKSURA_F*%) baMEEM#YEH_F*%)",
  "bk%EF_MAKSURA_F*%) qYEH#MEEM#MEEM_F*%) bo*I^%) qBEH#KHAH#YEH_F*%) qTEH#JEEM#YEH_F*%)",
  "bj%EF_MAKSURA_F*%) zKHAH#YEH_F*%) bj%EF_MAKSURA_F*%) zMEEM#YEH_F*%) bj%EF_MAKSURA_F*%)",
  "qJEEM#MEEM#YEH_F*%) baHAH#%EF_MAKSURA_F*%) baMEEM#%EF_MAKSURA_F*%) qSE[#KHAH#%EF_MAKSURA_F*%)",
  "rAD#HAH#YEH_F*%) rHE[#HAH#YEH_F*%) qDAD#HAH#YEH_F*%) qLAM#JEEM#YEH_F*%) zMEEM#YEH_F*%)",
  "qYEH#HAH#YEH_F*%) zJEEM#YEH_F*%) zMEEM#YEH_F*%) qMEEM#MEEM#YEH_F*%) qQAF#MEEM#YEH_F*%)",
  "qNO;#HAH#YEH_F*%) qQAF#MEEM#HAH_*I^%) qLAM#HAH#MEEM_*I^%) qA*#MEEM#YEH_F*%) qKAF#MEEM#YEH_F*%)",
  "qNO;#JEEM#HAH_*I^%) qMEEM#KHAH#YEH_F*%) qLAM#JEEM#MEEM_*I^%) qKAF#MEEM#MEEM_F*%)",
  "qLAM#JEEM#MEEM_F*%) qNO;#JEEM#HAH_F*%) qJEEM#HAH#YEH_F*%) qHAH#JEEM#YEH_F*%)",
  "qMEEM#JEEM#YEH_F*%) qFEH#MEEM#YEH_F*%) qBEH#HAH#YEH_F*%) qKAF#MEEM#MEEM_*I^%)",
  "qA*#JEEM#MEEM_*I^%) qSAD#MEEM#MEEM_*I^%) rE[#KHAH#YEH_F*%) qNO;#JEEM#YEH_F*%)",
  "FDCF=qS%AAMUHU_%AYNAA FDF0=tLA_USE]AS_KOR.IC<TOP<IGN> qQ%A_USE]AS_KOR.IC<TOP<IGN> q%LAH> rKB&>",
  "qMOHAMMAD> qS%AM> qRASOUL> q%AYHE> qWAS%LAM> qS%LA> vLLAHOU_%AYHE_WAS%LAM qJ%LAJ%%OUHOU",
  "aRI%<IGN a&ABIC_LIGATU~_BISMILLAH_&-RAHM._&-RAHEEM qSUBHA.AHU_WA_TAA%AA qAZZA_WA_J%L",
  "aV&IA^;<E+CTOR-1 t2 t3 t4 t5 t6 t7 t8 t9 t10 u1 u2 u3 u4 u5 u6 aP~S[TA^;)_FOR_V,^C%_COMMA",
  "bfIDEOGRAPHIC_COMMA brFULL<TOP bfCOL; bfSEMICOL; bfEXCLAMA^;_M&K bfQUES^;_M&K",
  "bf+FT_WHITE_+N^CUL&_BRACKET bfR(_WHITE_+N^CUL&_BRAKCET bfHORIZ;T%_ELLIPSIS",
  "FE20=aCOMB**G_LIGATU~_+FT_H%F tR(_H%F kDOUB+_^LDE_+FT_H%F xR(_H%F kMACR;_+FT_H%F rR(_H%F",
  "kC;JO**G_MACR; kLIGATU~_+FT_H%F_BELOW tR(_H%F_BELOW k^LDE_+FT_H%F_BELOW qR(_H%F_BELOW",
  "kMACR;_+FT_H%F_BELOW rR(_H%F_BELOW kC;JO**G_MACR;_BELOW lYRILLIC_^TLO_+FT_H%F zR(_H%F",
  "aP~S[TA^;)_FOR_V,^C%_TWO_DOT_+AD, bfEM_DASH bgN_DASH bfLOW_L*E bfWAVY_LOW_L*E bf+FT_P&[THESIS",
  "bfR(_P&[THESIS bf+FT_CURLY_BRACKET bfR(_CURLY_BRACKET bf+FT_TORTOISE<HELL_BRACKET",
  "bfR(_TORTOISE<HELL_BRACKET bf+FT_BLACK_+N^CUL&_BRACKET bfR(_BLACK_+N^CUL&_BRACKET",
  "bf+FT_DOUB+_.G+_BRACKET bfR(_DOUB+_.G+_BRACKET bf+FT_.G+_BRACKET bfR(_.G+_BRACKET",
  "bf+FT_CORN,_BRACKET bfR(_CORN,_BRACKET bf+FT_WHITE_CORN,_BRACKET bfR(_WHITE_CORN,_BRACKET",
  "aSESAME_DOT aWHITE<ESAME_DOT aP~S[TA^;)_FOR_V,^C%_+FT<QU&E_BRACKET bfR(<QU&E_BRACKET",
  "aDASHE]OV,L*E aC[T~L*E_OV,L*E aWAVY_OV,L*E aDOUB+_WAVY_OV,L*E bASHE]LOW_L*E aC[T~L*E_LOW_L*E",
  "aWAVY_LOW_L*E aSM%L_COMMA gIDEOGRAPHIC_COMMA gFULL<TOP FE54=gSEMICOL; gCOL; gQUES^;_M&K",
  "gEXCLAMA^;_M&K hM_DASH g+FT_P&[THESIS gR(_P&[THESIS g+FT_CURLY_BRACKET gR(_CURLY_BRACKET",
  "g+FT_TORTOISE<HELL_BRACKET gR(_TORTOISE<HELL_BRACKET gNUMB,<IGN gAMP,S.D hST,ISK gPLUS<IGN",
  "gHYPH[-M*US g+SS-TH.<IGN gG~AT,-TH.<IGN gEQU%S<IGN FE68=g~V,SE<OLIDUS gDOLL&<IGN gP,C[T<IGN",
  "gCOMM,CI%_AT FE70=a&ABIC_FATHAT.> hTATWEEL#FATHAT.? hDAMMAT.> hTAIL_FRAGM[T hKASRAT.>",
  "FE76=hFATHA> nMEDI%) hDAMMA> nMEDI%) hKASRA> nMEDI%) hSHADDA> oMEDI%) iUKUN> nMEDI%)",
  "h+TT,_HAMZA> o%EF#MADDA?> bkF*%) yHAMZA?> bkF*%) oWAW#HAMZA?> bjF*%) o%EF#HAMZA_BELOW> bkF*%)",
  "oYEH#HAMZA?> bjF*%) bj*I^%) bjMEDI%) o%EF> tF*%) oBEH> sF*%) s*I^%) sMEDI%) oTEH_M&BUTA>",
  "baF*%) sISOLATED) sF*%) s*I^%) sMEDI%) pHEH> tF*%) t*I^%) tMEDI%) oJEEM> tF*%) t*I^%) tMEDI%)",
  "oHAH> sF*%) s*I^%) sMEDI%) oKHAH> tF*%) t*I^%) tMEDI%) oD%> sF*%) oTH%> tF*%) o~H> sF*%) oZA*>",
  "tF*%) oSE[> tF*%) t*I^%) tMEDI%) pHE[> uF*%) u*I^%) uMEDI%) pAD> sF*%) s*I^%) sMEDI%) oDAD>",
  "sF*%) s*I^%) sMEDI%) oTAH> sF*%) s*I^%) sMEDI%) oZAH> sF*%) s*I^%) sMEDI%) oA*> sF*%) s*I^%)",
  "sMEDI%) oGHA*> uF*%) u*I^%) uMEDI%) oFEH> sF*%) s*I^%) sMEDI%) oQAF> sF*%) s*I^%) sMEDI%)",
  "oKAF> sF*%) s*I^%) sMEDI%) oLAM> sF*%) s*I^%) sMEDI%) oMEEM> tF*%) t*I^%) tMEDI%) oNO;> tF*%)",
  "t*I^%) tMEDI%) oHEH> sF*%) s*I^%) sMEDI%) oWAW> sF*%) o%EF_MAKSURA> bbF*%) oYEH> sF*%) s*I^%)",
  "sMEDI%) iIGATU~_LAM#%EF#MADDA?> bvF*%) bjHAMZA?> bvF*%) bpBELOW> bvF*%) beISOLATED) beF*%)",
  "FEFF=aZ,O_WIDTH_NO-B~AK<PACE FF01=aFULLWIDTH_EXCLAMA^;_M&K kQUOTA^;_M&K kNUMB,<IGN kDOLL&<IGN",
  "kP,C[T<IGN kAMP,S.D lPOSTROPHE k+FT_P&[THESIS kR(_P&[THESIS kAST,ISK kPLUS<IGN kCOMMA",
  "kHYPH[-M*US kFULL<TOP kSOLIDUS kDIGIT_Z,O q;E qTWO rH~E qFOUR rIVE qSIX rEV[ qE( qN*E kCOL;",
  "kSEMICOL; k+SS-TH.<IGN kEQU%S<IGN kG~AT,-TH.<IGN kQUES^;_M&K kCOMM,CI%_AT kLAT*_$A bfB bfC bfD",
  "bfE bfF bfG bfH bfI bfJ bfK bfL bfM bfN bfO bfP bfQ bfR bfS bfT bfU bfV bfW bfX bfY bfZ",
  "lEFT<QU&E_BRACKET k~V,SE<OLIDUS l(<QU&E_BRACKET kCIRCUMF+X_ACC[T kLOW_L*E kGRAVE_ACC[T",
  "kLAT*<M%!A bdB bdC bdD bdE bdF bdG bdH bdI bdJ bdK bdL bdM bdN bdO bdP bdQ bdR bdS bdT bdU bdV",
  "bdW bdX bdY bdZ lEFT_CURLY_BRACKET kV,^C%_L*E kR(_CURLY_BRACKET k^LDE k+FT_WHITE_P&[THESIS",
  "kR(_WHITE_P&[THESIS aH%FWIDTH_IDEOGRAPHIC_FULL<TOP k+FT_CORN,_BRACKET kR(_CORN,_BRACKET",
  "kIDEOGRAPHIC_COMMA kKATAK.A_MIDD+_DOT t+TT,_WO baSM%L_A bgI bgU bgE bgO bgYA bhU bhO bgTU",
  "s-HIRAG.A_PROL;GED<OUN]M&K s_+TT,_A baI baU baE baO baKA bbI bbU bbE bbO baSA bbI bbU bbE bbO",
  "baTA bbI bbU bbE bbO baNA bbI bbU bbE bbO baHA bbI bbU bbE bbO baMA bbI bbU bbE bbO baYA bbU",
  "bbO baRA bbI bbU bbE bbO baWA baN tVOICED<OUN]M&K tSEMI-VOICED<OUN]M&K kH.GUL_FIL+R",
  "r+TT,_KIYEOK ySS.GKIYEOK yKIYEOK-SIOS yNIEUN bd-CIEUC beHIEUH y^KEUT ySS.G^KEUT yRIEUL",
  "bd-KIYEOK beMIEUM bePIEUP beSIOS beTHIEUTH bePHIEUPH beHIEUH yMIEUM yPIEUP ySS.GPIEUP",
  "yPIEUP-SIOS ySIOS zS.GSIOS yIEUNG yCIEUC ySS.GCIEUC yCHIEUCH yKHIEUKH yTHIEUTH yPHIEUPH yHIEUH",
  "FFC2=yA zE yYA baE yEO z FFCA=yYEO ba yO yWA baE yOE FFD2=yYO yU yWEO ba zI yYU FFDA=yEU yYI",
  "yI FFE0=aFULLWIDTH_C[T<IGN kPOUND<IGN kNOT<IGN kMACR; kBROK[_B& kY[<IGN kW;<IGN",
  "FFE8=aH%FWIDTH)S_L(_V,^C% k+FT|: kUP|: kR(|: kDOWN|: kBLACK<QU&E kWHITE_CIRC+",
  "FFF9=a*T,L*E&_.NOTA^;_.CHOR xSEP&ATOR xT,M*ATOR aOBJECT_~PLACEM[T_CH&ACT, a~PLACEM[T_CH&ACT,",
  "10000=aL*E&_B<YLLAB+_B008_A u38_E u28_I u61_O u10_U u01_DA u45_DE u07_DI u14_DO u51_DU v7_JA",
  "u46_JE 1000D=u36_JO u65_JU u77_KA u44_KE u67_KI u70_KO u81_KU v0_MA u13_ME u73_MI u15_MO",
  "u23_MU u06_NA u24_NE u30_NI u52_NO v5_NU u03_PA u72_PE u39_PI u11_PO u50_PU u16_QA u78_QE",
  "u21_QI u32_QO 10028=u60_RA u27_~ u53_RI u02_RO u26_RU u31<A u09<E u41<I u12<O u58<U v9_TA",
  "u04_TE u37_^ u05_TO u69_TU u54_WA u75_WE u40_WI v2_WO 1003C=u17_ZA u74_ZE 1003F=u20_ZO v5_A2",
  "u43_A3 u85_AU u71_DWE u90_DWO u48_NWA u29_PU2 u62_PTE u76_RA2 u33_RA3 u68_RO2 v6_TA2 u87_TWE",
  "u91_TWO 10050=lMBOL_B018 t9 s22 s34 s47 t9 s56 s63 t4 s79 s82 t3 t6 t9 10080=jIDEOGRAM_B100_M.",
  "v2_WOM. v4_DE, v5_EQUID wF_M&E wM<T%LI; v6F_EWE wM_RAM v7F<HE-GOAT wM_HE-GOAT v8F<OW wM_BO&",
  "v9F_COW wM_BULL u20_WHEAT v1_B&+Y v2_OLIVE v3<PICE v5_CYP,US jM;OGRAM_B127_KAPO v8_K.AKO",
  "jIDEOGRAM_B130_OIL v1_W*E v2 jM;OGRAM_B133_&EPA v5_M,I jIDEOGRAM_B140_BR;ZE v1_GOLD v2 v5_WOOL",
  "v6 u50 v1_HORN v2 v3 v4 jM;OGRAM_B156_TURO2 jIDEOGRAM_B157 v8 v9_CLOTH u60 v1 v2_G&M[T",
  "v3_&MOUR v4 v5 v6 v7 v8 v9 u70 v1 v2 v3_M;TH v4 v6_T~E v7 v8 v9 u80 v1 v2 v3 v4 v5 v9 u90",
  "v1_HELMET t220_FOOTSTOOL v5_BATHTUB u30<PE& v1: v2 v3<WORD v4 v6 u40_WHEE+]CH&IOT v1_CH&IOT",
  "v2_CH&IOT_FRAME v3_WHEEL v5 v6 jM;OGRAM_B247_DIPTE jIDEOGRAM_B248 v9 u51 v2 v3 v4_D&T v5 v6 v7",
  "v8 v9 sVESSEL_B155 ba200 bc1 bc2 bc3 bc4 bc5 bc6 bc7 bc8 bc9 bb10 bc1 bc2 bc3 bc4 bc5 bc6 bc7",
  "bc8 bc9 bb21 bc2 bc6 bc7 bc8 bc9 bb50 ba305 10100=aAEGE._WORD<EP&ATOR_L*E wDOT hCHECK_M&K",
  "10107=hNUMB,_;E oTWO pH~E oFOUR pIVE oSIX pEV[ oE( oN*E oT[ pW[TY pHIRTY oFORTY pIFTY oSIXTY",
  "pEV[TY oE(Y oN*ETY o;E_HUND~D oTWO_HUND~D pH~E_HUND~D oFOUR_HUND~D pIVE_HUND~D oSIX_HUND~D",
  "pEV[_HUND~D oE(_HUND~D oN*E_HUND~D o;E_THOUS.D oTWO_THOUS.D pH~E_THOUS.D oFOUR_THOUS.D",
  "pIVE_THOUS.D oSIX_THOUS.D pEV[_THOUS.D oE(_THOUS.D oN*E_THOUS.D oT[_THOUS.D pW[TY_THOUS.D",
  "pHIRTY_THOUS.D oFORTY_THOUS.D pIFTY_THOUS.D oSIXTY_THOUS.D pEV[TY_THOUS.D oE(Y_THOUS.D",
  "oN*ETY_THOUS.D 10137=hWE(_BASE_UNIT oFIRST<UBUNIT oSEC;D<UBUNIT oTHIRD<UBUNIT oFOURTH<UBUNIT",
  "hDRY_MEASU~_FIRST<UBUNIT hLIQUI]MEASU~_FIRST<UBUNIT hMEASU~<EC;D<UBUNIT pTHIRD<UBUNIT",
  "aG~EK_ACROPH;IC_AT^C_;E_QU&T, bbH%F bbDRACHMA xFIVE zFTY zVE_HUND~D bcTHOUS.D zFTY_THOUS.D",
  "zVE_T%[TS xT[_T%[TS xFIFTY_T%[TS x;E_HUND~]T%[TS xFIVE_HUND~]T%[TS x;E_THOUS.]T%[TS",
  "xFIVE_THOUS.]T%[TS bcSTAT,S xT[<TAT,S xFIFTY<TAT,S x;E_HUND~D<TAT,S xFIVE_HUND~D<TAT,S",
  "x;E_THOUS.D<TAT,S xT[_THOUS.D<TAT,S xFIFTY_THOUS.D<TAT,S xT[_MNAS rH,AEUM_;E_P+THR;",
  "rTHESPI._;E rH,MI;I._;E rEPIDAU~._TWO rTHESPI._TWO rCYR[AIC_TWO_DRACHMAS",
  "rEPIDAU~._TWO_DRACHMAS rTROEZ[I._FIVE bcT[ bf_%T,NATE) rH,MI;I._T[ rMESS[I._T[ rTHESPI._T[",
  "bbHIRTY sROEZ[I._FIFTY bh_%T,NATE) rH,MI;I._FIFTY rTHESPI._FIFTY ba;E_HUND~D baTH~E_HUND~D",
  "rEPIDAU~._FIVE_HUND~D rTROEZ[I._FIVE_HUND~D sHESPI._FIVE_HUND~D rC&YS^._FIVE_HUND~D",
  "rNAXI._FIVE_HUND~D rTHESPI._;E_THOUS.D baFIVE_THOUS.D rDELPHIC_FIVE_MNAS rSTRA^._FIFTY_MNAS",
  "g;E_H%F<IGN t_%T,NATE) gTWO_THIRDS<IGN hH~E_QU&T,S<IGN gYE&<IGN gT%[T<IGN gDRACHMA<IGN",
  "gOBOL<IGN gTWO_OBOLS<IGN hH~E_OBOLS<IGN gFOUR_OBOLS<IGN hIVE_OBOLS<IGN gMET~TES<IGN",
  "gKYATHOS_BASE<IGN gLITRA<IGN gOUNKIA<IGN gXESTES<IGN g&TABE<IGN iOURA<IGN gGRAMMA<IGN",
  "gTRYBLI;_BASE<IGN gZ,O<IGN g;E_QU&T,<IGN gS*USOID<IGN g*DIC^;<IGN aNOMISMA<IGN",
  "10190=aROM.<EXT.S<IGN gUNCIA<IGN gSEMUNCIA<IGN iXTULA<IGN gDIMIDIA<EXTULA<IGN gSILIQUA<IGN",
  "gD[&IUS<IGN gQU*&IUS<IGN gSEST,^US<IGN gDUP;DIUS<IGN gAS<IGN gC[TURI%<IGN aASCIA<YMBOL",
  "101A0=aG~EK<YMBOL_TAU_RHO 101D0=aPHAISTOS_DISC<IGN_PEDESTRI. uLUME]HEAD tTATTOOE]HEAD tCAP^VE",
  "uHILD tWOM. tHELMET tGAUNT+T t^&A t&ROW tBOW tSHIELD tCLUB tM.AC+S vTTOCK tSAW tLID tBOOM,.G",
  "tC&P[TRY_PL.E tDOLIUM tCOMB tSL*G tCOLUMN tBEEHIVE tSHIP tHORN uIDE tBULLS_+G tCAT tRAM tEAG+",
  "tDOVE tTUNNY tBEE tPL.E_T~E tV*E tPAPYRUS tROSETTE tLILY tOX_BACK tFLUTE tGRAT, tSTRA*,",
  "uM%L_AXE tWAVY_B.D tCOMB**G_OBLIQUE<TROKE 10280=aLYCI._+TT,_A oE oB pH oG oD oI oW oZ oTH oJ",
  "oK oQ oL oM oN oMM oNN oU oP oKK oR oS oT pT o. o[ oH oX 102A0=aC&I._+TT,_A oP2 oD oL oUUU oR",
  "oLD oA2 oQ oB oM oO oD2 oT oSH q2 p oC-18 oU oNN oX oN oTT2 oP oSS oI oE oUUUU oK p2 oND oUU",
  "oG p2 oST q2 oNG oII oC-39 oTT oUUU2 oRR oMB q2 q3 q4 oLD2 oE2 oUUU3",
  "102E0=bOP^C_EPACT_THOUS.DS_M&K nDIGIT_;E tTWO uH~E tFOUR uIVE tSIX uEV[ tE( tN*E nNUMB,_T[",
  "vW[TY vHIRTY uFORTY vIFTY uSIXTY vEV[TY uE(Y uN*ETY u;E_HUND~D uTWO_HUND~D vH~E_HUND~D",
  "uFOUR_HUND~D vIVE_HUND~D uSIX_HUND~D vEV[_HUND~D uE(_HUND~D uN*E_HUND~D 10300=aOL]IT%IC_+TT,_A",
  "sBE sKE sDE sE sVE sZE sHE sTHE sI sKA sEL tM tN tSH sO sPE sSHE sKU s, tS sTE sU sEKS sPHE",
  "sKHE sEF tRS sCHE sII sUU sESS lNUM,%_;E tFIVE tT[ tFIFTY 1032D=l+TT,_YE sNORTH,N_TSE",
  "sSOUTH,N_TSE aGOTHIC_+TT,_AHSA oBAIRK. oGIBA oDAGS oAIHVUS oQAIRTHRA oIUJA oHAGL oTHIUTH oEIS",
  "oKUSMA oLAGUS oM.NA oNAUTHS oJ, oURUS oPAIRTHRA oN*ETY oRAIDA oSAUIL oTEIWS oW*JA oFAIHU",
  "oIGGWS oHWAIR oOTH% oN*E_HUND~D 10350=aOL]P,MIC_+TT,_. sBUR sGAI sDOI sE sZHOI sDZHOI sZATA",
  "sDZITA sI sKOKE s+I sM[OE sN[OE sVOOI sPEEI s~I sSII sTAI sU sCH,Y sSHOOI uCHOOI sYRY t,U sO",
  "tO sEF sHA sTSIU sV, sY, vI tAT sIE sYU tA sIA aCOMB**G_OL]P,MIC_+TT,_. bcDOI bcZATA bcN[OE",
  "bcSII 10380=aUG&I^C_+TT,_%PA qBETA qGAMLA qKHA qDELTA qHO qWO qZETA qHOTA qTET qYOD qKAF qSH*",
  "qLAMDA qMEM qDH% qNUN qZU qSAMKA qA* qPU qSADE qQOPA qRASHA qTH.NA qGHA* qTO qI qU qSSU",
  "1039F=jWOR]DIVID, aOL]P,SI.<IGN_A rI rU rKA sU rGA sU rXA rCA rJA sI rTA sU rDA sI sU rTHA rPA",
  "rBA rFA rNA sU rMA sI sU rYA rVA sI rRA sU rLA rSA rZA rSHA sSA rHA 103C8=rAURAMAZDAA bb-2",
  "bbHA rXSHAAYATHIYA rDAHYAAUSH ba-2 rBAGA sUUMISH mWOR]DIVID, mNUMB,_;E tTWO u[ uW[TY tHUND~D",
  "10400=aDES,ET_$L;G_I bcE bcA bdH bcO bdO xSHORT_I bdE bdA beH bdO beO xAY xOW xWU xYEE xH xPEE",
  "xBEE xTEE xDEE xCHEE xJEE xKAY xGAY xEF xVEE xETH xTHEE xES xZEE xESH xZHEE x, yL yM yN zG xOI",
  "xEW i@L;G_I baE baA bbH baO bbO vSHORT_I bbE bbA bcH bbO bcO vAY vOW vWU vYEE vH vPEE vBEE",
  "vTEE vDEE vCHEE vJEE vKAY vGAY vEF vVEE vETH vTHEE vES vZEE vESH vZHEE v, wL wM wN xG vOI vEW",
  "aSHAVI._+TT,_PEEP pTOT pKICK pFEE pTHIGH pSO qU~ pCHURCH pYEA pHUNG pBIB pDEAD pGAG pVOW pTHEY",
  "pZOO pMEASU~ pJUDGE pWOE pHA-HA pLOLL pMIME pIF pEGG pASH qDO p; pWOOL pOUT pAH pRO& pNUN pEAT",
  "pAGE pICE pUP pOAK qOZE qIL pAWE q~ pOR pAIR p,R p&RAY pE& pI. pYEW aOSM.YA_+TT,_%EF pBA pTA",
  "pJA pXA pKHA pDEEL pRA pSA qHI* pDHA pCAYN pGA pFA pQAAF pKAAF pLA. pMI* pNUUN pWAW pHA pYA pA",
  "pE pI pO pU pAA pEE pOO 104A0=iDIGIT_Z,O o;E oTWO pH~E oFOUR pIVE oSIX pEV[ oE( oN*E",
  "104B0=cAGE_$A wI xN wH vBRA vCHA vEHCHA w w* vHA wYA vI vKA vEHKA vKYA vLA vMA vNA vO w* vPA",
  "vEHPA vSA wHA vTA vEHTA vTSA vEHTSA vTSHA vDHA vU vWA vKHA vGHA vZA wHA 104D8=g@A uI vN uH",
  "tBRA tCHA tEHCHA u u* tHA uYA tI tKA tEHKA tKYA tLA tMA tNA tO u* tPA tEHPA tSA uHA tTA tEHTA",
  "tTSA tEHTSA tTSHA tDHA tU tWA tKHA tGHA tZA uHA 10500=aELBAS._+TT,_A pBE pCE qHE pDE pNDE pDHE",
  "pEI q pFE pGE qJE pHE pI pJE pKE p+ q+ pME pNE qA qJE pO pPE pQE p~ q~ pSE qHE pTE qHE pU pVE",
  "pXE pY pZE qHE pGHE rAMMA pKHE 10530=aCAUCASI._%B.I._+TT,_%T baBET baGIM baDAT baEB baZ&L",
  "baEYN baZHIL baTAS baCHA baYOWD baZHA baIRB baSHA baL. ba*YA baXEYN baDY. baC& baJHOX baK&",
  "baLYIT baHEYT baQAY baAOR baCHOY bcI bbYAY baMAQ baQ& baNOWC baDZYAY baSHAK baJAYN ba; baTYAY",
  "baFAM baDZAY baCHAT baP[ baGHEYS baRAT baSEYK baVEYZ ba^WR baSHOY baIWN baCYAW bbAYN baYAYD",
  "baPIWR baKIW 1056F=tCITA^;_M&K aVITHKUQI_$A yBBE zE yCE zHE yDE zHE yEI z yFE yGA 1057C=yHA",
  "zHA yI zJE yJE yKA yLA zLA yME yNE zJE yO yPE yQA y~ 1058C=ySE zHE yTE zHE yU yVE yXE 10594=yY",
  "yZE 10597=j@A wBBE xE wCE xHE wDE xHE wEI x wFE wGA 105A3=wHA xHA wI xJE wJE wKA wLA xLA wME",
  "wNE xJE wO wPE wQA w~ 105B3=wSE xHE wTE xHE wU wVE wXE 105BB=wY wZE 10600=aL*E&_A<IGN_AB001 s2",
  "s3 s4 s5 s6 s7 s8 s9 r10 s1 s3 s6 s7 r20 s1 tF tM s2 tF tM s3 tM s4 s6 s7 s8 p028B pB029 r30",
  "s1 s4 s7 s8 s9 r40 s1 s4 s5 s6 s7 s8 s9 r50 s1 s3 s4 s5 s6 s7 s8 s9 r60 s1 s5 s6 s7 s9 r70 s3",
  "s4 s6 s7 s8 s9 r80 s1 s2 s5 s6 s7 p100-102 pB118 r20 p120B pB122 s3 r31A tB p131C pB164 r71",
  "r80 s8 r91 p301 r2 r3 r4 r5 r6 r7 r8 r9A sB sC q10 r1 r2 r3A sB sC r4 r5 r6 r7 r8 r9 q20 r1 r2",
  "r3 r4 r5 r6 r7 r8 r9 q30 r1 r2 r3 r4 r5 r6 r7 r8 r9 q40 r1 r2 r3 r4 r5 r6 r7 r8 r9 q50 r1 r2",
  "r3 r4 r5 r6 r7 r8 r9 q60 r1 r2 r3 r4 r5 r6 r7 r8 r9 q70 r1 p400-VAS r1-VAS r2-VAS r3-VAS",
  "r4-VAS r5-VAS r6-VAS r7-VAS r8-VAS r9-VAS q10-VAS r1-VAS r2-VAS r3-VAS r4-VAS r5-VAS r6-VAS",
  "r7-VAS r8-VAS p501 r2 r3 r4 r5 r6 r8 r9 q10 r1 r2 r3 r5 r6 q20 r1 r3 r4 r5 r6 r7 r8 r9 q30 r1",
  "r2 r4 r5 r6 r7 r8 r9 q40 r1 r2 r5 r7 r8 r9 q50 r1 r2 r3 r4 r5 r6 r7 r9 q63 r4 r5 r6 r8 r9 q70",
  "r1 r2 r3 r4 r5 r6 r7 r8 r9 q80 r1 r2 r3 r4 r5 r6 r7 r8 r9 q91 r2 r4 r5 r6 r8 p600 r1 r2 r3 r4",
  "r6 r8 r9 q10 r1 r2 r3 r4 r5 r6 r7 r8 r9 q20 r1 r2 r3 r4 r6 r7 r8 r9 q34 r7 r8 q40 r2 r3 r4 r5",
  "r6 r8 r9 q51 r2 r3 r4 r5 r6 r7 r8 r9 q60 r1 r2 r3 r4 10740=p701_A r2_B r3_D r4_E r5_F r6_H",
  "r7_J r8_K r9_L s-2_L2 t3_L3 t4_L4 t6_L6 q10_W r1_X r2_Y r3_OMEGA r4_ABB r5_BB r7_DD q26_EYYY",
  "q32_JE 10760=p800 r1 r2 r3 r4 r5 r6 r7 10780=aMODIFI,_+TT,<M%L_CAPIT%_AA",
  "rUP,SCRIPT_TRI.GUL&_COL; bcH%F_TRI.GUL&_COL; rM%L_AE wCAPIT%_B wB#HOOK 10787=wDZ_DIGRAPH",
  "bg#~TROF+X_HOOK bmCURL xEZH_DIGRAPH x#TAIL bdHOOK bh_.]TAIL w~V,SE]E wCLOSE]~V,SE]OP[_E",
  "wF[G_DIGRAPH wRAMS_HORN wCAPIT%_G wG#HOOK wCAPIT%_G#HOOK wH#STROKE wCAPIT%_H wH[G#HOOK",
  "wDOT+SS_J#STROKE_.]HOOK wLS_DIGRAPH xZ_DIGRAPH x#BELT wCAPIT%_L#BELT wL#~TROF+X_HOOK_.]BELT",
  "xEZH ba#~TROF+X_HOOK wTURNE]Y be#BELT wO#STROKE wCAPIT%_OE xLOSE]OMEGA wQ wTURNE]R#L;G_+G",
  "bs_.]~TROF+X_HOOK wR#TAIL bdFISHHOOK wCAPIT%_R wTC_DIGRAPH#CURL xS_DIGRAPH bg#~TROF+X_HOOK",
  "xESH_DIGRAPH x#~TROF+X_HOOK wV#R(_HOOK 107B2=wCAPIT%_Y qGLOTT%<TOP#STROKE",
  "q~V,SE]GLOTT%<TOP#STROKE qBILABI%_CLICK qD[T%_CLICK qLAT,%_CLICK q%VEOL&_CLICK",
  "q~TROF+X_CLICK#~TROF+X_HOOK qSM%L<#CURL 10800=aCYPRIOT<YLLAB+_A rE rI rO rU rJA 10808=sO",
  "1080A=rKA sE sI sO sU rLA sE sI sO sU rMA sE sI sO sU rNA sE sI sO sU rPA sE sI sO sU rRA sE",
  "sI sO sU rSA sE sI sO sU rTA sE sI sO sU rWA sE sI sO 10837=rXA sE 1083C=rZA 1083F=sO",
  "aIMP,I%_&AMAIC_+TT,_%EPH yBETH yGIMEL yD%ETH yHE yWAW yZAY* yHETH yTETH yYODH yKAPH yLAMEDH",
  "yMEM yNUN ySAMEKH yAY* yPE ySADHE yQOPH y~SH ySH* yTAW 10857=rSEC^;<IGN rNUMB,_;E yTWO zH~E z[",
  "zW[TY y;E_HUND~D bcTHOUS.D yT[_THOUS.D aP%MYR[E_+TT,_%EPH rBETH rGIMEL rD%ETH rHE rWAW rZAY*",
  "rHETH rTETH rYODH rKAPH rLAMEDH rMEM rF*%_NUN rNUN rSAMEKH rAY* rPE rSADHE rQOPH r~SH rSH*",
  "rTAW mFT-PO*T*G_F+UR; kR(-PO*T*G_F+UR; kNUMB,_;E rTWO sH~E rFOUR sIVE rT[ sW[TY",
  "aNABATAE._+TT,_F*%_%EPH r%EPH rF*%_BETH rBETH rGIMEL rD%ETH rF*%_HE rHE rWAW rZAY* rHETH rTETH",
  "rF*%_YODH rYODH rF*%_KAPH rKAPH rF*%_LAMEDH rLAMEDH rF*%_MEM rMEM rF*%_NUN rNUN rSAMEKH rAY*",
  "rPE rSADHE rQOPH r~SH rF*%<H* rSH* rTAW 108A7=kNUMB,_;E rTWO sH~E rFOUR kCRUCIFORM_NUMB,_FOUR",
  "kNUMB,_FIVE rT[ sW[TY r;E_HUND~D 108E0=aHATR._+TT,_%EPH oBETH oGIMEL oD%ETH-~SH oHE oWAW oZAYN",
  "oHETH oTETH oYODH oKAPH oLAMEDH oMEM oNUN oSAMEKH oAYN oPE oSADHE oQOPH 108F4=oSH* oTAW",
  "108FB=hNUMB,_;E oFIVE oT[ pW[TY o;E_HUND~D aPHO[ICI._+TT,_%F sBET sGAML sDELT sHE sWAU sZAI",
  "sHET sTET sYOD sKAF sLAMD sMEM sNUN sSEMK sA* sPE sSADE sQOF sROSH sSH* sTAU lNUMB,_;E sT[",
  "tW[TY s;E_HUND~D sTWO tH~E 1091F=lWORD<EP&ATOR aLYDI._+TT,_A oB oG oD oE oV oI oY oK oL oM oN",
  "oO oR oSS oT oU oF oQ oS oTT o. o[ oLY oNN oC 1093F=hTRI.GUL&_M&K",
  "10980=aM,OI^C_HI,OGLYPHIC_+TT,_A bdE bdI bdO bdYA bdWA bdBA bf-2 bdPA bdMA bdNA bf-2 beE bf-2",
  "bdRA bf-2 bdLA bdKHA bdHHA bdSA bf-2 beE bdKA bdQA bdTA bf-2 beE bf-2 beO bdDA wSYMBOL_VIDJ",
  "bh-2 jCURSIVE_+TT,_A yE yI yO yYA yWA yBA yPA yMA yNA zE yRA yLA yKHA yHHA ySA y&CHAIC<A ySE",
  "yKA yQA yTA zE zO yDA 109BC=rFRAC^;_E+V[_TWELFTHS ba;E_H%F rLOGOGRAM_RMT baIMN rNUMB,_;E yTWO",
  "zH~E yFOUR zIVE ySIX zEV[ yE( yN*E yT[ zW[TY zHIRTY yFORTY zIFTY ySIXTY zEV[TY",
  "109D2=y;E_HUND~D yTWO_HUND~D zH~E_HUND~D yFOUR_HUND~D zIVE_HUND~D ySIX_HUND~D zEV[_HUND~D",
  "yE(_HUND~D yN*E_HUND~D y;E_THOUS.D yTWO_THOUS.D zH~E_THOUS.D yFOUR_THOUS.D zIVE_THOUS.D",
  "ySIX_THOUS.D zEV[_THOUS.D yE(_THOUS.D yN*E_THOUS.D yT[_THOUS.D zW[TY_THOUS.D zHIRTY_THOUS.D",
  "yFORTY_THOUS.D zIFTY_THOUS.D ySIXTY_THOUS.D zEV[TY_THOUS.D yE(Y_THOUS.D yN*ETY_THOUS.D",
  "y;E_HUND~]THOUS.D yTWO_HUND~]THOUS.D zH~E_HUND~]THOUS.D yFOUR_HUND~]THOUS.D zIVE_HUND~]THOUS.D",
  "ySIX_HUND~]THOUS.D zEV[_HUND~]THOUS.D yE(_HUND~]THOUS.D yN*E_HUND~]THOUS.D rFRAC^;_;E_TWELFTH",
  "baTWO_TWELFTHS bbH~E_TWELFTHS baFOUR_TWELFTHS bbIVE_TWELFTHS baSIX_TWELFTHS bbEV[_TWELFTHS",
  "baE(_TWELFTHS baN*E_TWELFTHS baT[_TWELFTHS aKH&OSHTHI_+TT,_A lVOWEL<IGN_I wU wVOC%IC_R",
  "10A05=wE wO 10A0C=r+NGTH_M&K lSIGN_DOUB+_R*G_BELOW q.USV&A qVIS&GA l+TT,_KA tHA sGA tHA",
  "10A15=sCA tHA sJA 10A19=sNYA sTTA uHA sDDA uHA sNNA sTA tHA sDA tHA sNA sPA tHA sBA tHA sMA",
  "sYA sRA sLA sVA sSHA tSA tA sZA sHA sKKA sTTTHA vA sVHA 10A38=lSIGN_B&? qCAUDA qDOT_BELOW",
  "10A3F=lVIRAMA lDIGIT_;E rTWO sH~E rFOUR lNUMB,_T[ tW[TY s;E_HUND~D wTHOUS.D lFRAC^;_;E_H%F",
  "10A50=lPUNCTUA^;_DOT xSM%L_CIRC+ xCIRC+ y~SC[T_B& xM.G%AM xLOTUS xD.DA yOUB+_D.DA xL*ES",
  "10A60=aOLD<OUTH_&ABI._+TT,_HE zLAMEDH zHETH zMEM zQOPH zWAW zSH* z~SH zBETH zTAW zSAT zKAPH",
  "zNUN zKHETH zSADHE bbMEKH zFE z%EF baYN zDHADHE zGIMEL zD%ETH zGHAYN zTETH zZAYN zDH%ETH zYODH",
  "zTHAW bbETH sNUMB,_;E zFIFTY v,IC_*DICATOR eNORTH_&ABI._+TT,_HEH zLAM zHAH zMEEM zQAF zWAW",
  "zES-2 z~H zBEH zTEH zES-1 zKAF zNO; zKHAH zSAD zES-3 zFEH z%EF ba* zDAD zGEEM zD% zGHA* zTAH",
  "zZA* zTH% zYEH zTHEH zZAH sNUMB,_;E zT[ baW[TY 10AC0=aM.ICHAE._+TT,_%EPH sBETH tHETH sGIMEL",
  "tHIMEL sD%ETH sHE sWAW lSIGN_UD l+TT,_ZAY* tHAY* sJAY* tHAY* sHETH sTETH sYODH sKAPH sXAPH",
  "sKHAPH sLAMEDH sDHAMEDH sTHAMEDH sMEM sNUN sSAMEKH sAY* tAY* sPE sFE sSADHE sQOPH sXOPH sQHOPH",
  "s~SH sSH* tSH* sTAW lABB~VIA^;_M&K? bdBELOW 10AEB=lNUMB,_;E sFIVE sT[ tW[TY s;E_HUND~D",
  "lPUNCTUA^;<T& xF+UR; xDOUB+_DOT_WITH*_DOT zT_WITH*_DOT ba xTWO_DOTS xL*E_FIL+R",
  "10B00=aAVEST._+TT,_A qA qO qAO qN q. qE rE pE qE pO qO pI qI pU qU pKE pXE qYE qVE pGE qGE qHE",
  "pCE pJE pTE qHE pDE qHE pTTE pPE pFE pBE qHE pNGE rYE rVE qE qYE qNE pME pHME pYYE qE pVE p~",
  "p+ pSE pZE pSHE pZHE pSHYE qSHE pHE 10B39=iABB~VIA^;_M&K aT*Y_TWO_DOTS_OV,_;E_DOT_PUNCTUA^;",
  "aSM%L_TWO_DOTS_OV,_;E_DOT_PUNCTUA^; aL&GE_TWO_DOTS_OV,_;E_DOT_PUNCTUA^;",
  "g;E_DOT_OV,_TWO_DOTS_PUNCTUA^; gTWO_R*GS_OV,_;E_R*G_PUNCTUA^; g;E_R*G_OV,_TWO_R*GS_PUNCTUA^;",
  "a*SCRIP^;%_P&THI._+TT,_%EPH beBETH beGIMEL beD%ETH beHE beWAW beZAY* beHETH beTETH beYODH",
  "beKAPH beLAMEDH beMEM beNUN beSAMEKH beAY* bePE beSADHE beQOPH be~SH beSH* beTAW",
  "10B58=xNUMB,_;E beTWO bfH~E beFOUR beT[ bfW[TY be;E_HUND~D biTHOUS.D qHLAVI_+TT,_%EPH bdBETH",
  "bdGIMEL bdD%ETH bdHE bdWAW-AY*-~SH bdZAY* bdHETH bdTETH bdYODH bdKAPH bdLAMEDH bdMEM-QOPH",
  "bdNUN bdSAMEKH bdPE bdSADHE beH* bdTAW 10B78=wNUMB,_;E bdTWO beH~E bdFOUR bdT[ beW[TY",
  "bd;E_HUND~D bhTHOUS.D aPS%T,_PAHLAVI_+TT,_%EPH xBETH xGIMEL xD%ETH xHE xWAW-AY*-~SH xZAY*",
  "xHETH xYODH xKAPH xLAMEDH xMEM-QOPH xNUN xSAMEKH xPE xSADHE yH* xTAW 10B99=qSEC^;_M&K",
  "qTURNED<EC^;_M&K qFOUR_DOTS#CROSS bfDOT 10BA9=qNUMB,_;E xTWO yH~E xFOUR xT[ yW[TY x;E_HUND~D",
  "10C00=aOL]TURKIC_+TT,_ORKH;_A sY[ISEI_A bbE sORKH;_I sY[ISEI_I baE sORKH;_O baE sY[ISEI_OE",
  "sORKH;_AB sY[ISEI_AB sORKH;_AEB sY[ISEI_AEB sORKH;_AG sY[ISEI_AG sORKH;_AEG sY[ISEI_AEG",
  "sORKH;_AD sY[ISEI_AD sORKH;_AED zEZ sY[ISEI_EZ sORKH;_AY sY[ISEI_AY sORKH;_AEY sY[ISEI_AEY",
  "sORKH;_AEK sY[ISEI_AEK sORKH;_OEK sY[ISEI_OEK sORKH;_% sY[ISEI_% sORKH;_AEL zELT baM z. ba[",
  "sY[ISEI_A[ sORKH;_[T sY[ISEI_[T sORKH;_[C sY[ISEI_[C sORKH;_[Y sY[ISEI_[Y ba.G sORKH;_[G",
  "sY[ISEI_A[G sORKH;_EP zOP zIC zEC sY[ISEI_EC sORKH;_AQ sY[ISEI_AQ sORKH;_IQ sY[ISEI_IQ",
  "sORKH;_OQ sY[ISEI_OQ sORKH;_& sY[ISEI_& sORKH;_A, baS baES baSH sY[ISEI_ASH sORKH;_ESH",
  "sY[ISEI_ESH sORKH;_AT sY[ISEI_AT sORKH;_AET sY[ISEI_AET sORKH;_OT zBASH 10C80=eHUNG&I._$A beA",
  "bdEB bdAMB bdEC beNC beCS beD bd.D bdE bdCLOSE_E bdEE beF beG bfY beH bdI beI bdEJ beK bdAK",
  "bdUNK bdEL bfY beM beN bfY bdO beO bdNIKOLSBURG_OE bdRUDIM[TA_OE bdOEE bdEP beMP beR bdSHORT_,",
  "bdES bfZ beT beNT beTY beCH bdU beU bdNIKOLSBURG_UE bdRUDIM[TA_UE bdEV beZ bfS beNT-SHAPED<IGN",
  "bdUS 10CC0=o@A bcA bbEB bbAMB bbEC bcNC bcCS bcD bb.D bbE bbCLOSE_E bbEE bcF bcG bdY bcH bbI",
  "bcI bbEJ bcK bbAK bbUNK bbEL bdY bcM bcN bdY bbO bcO bbNIKOLSBURG_OE bbRUDIM[TA_OE bbOEE bbEP",
  "bcMP bcR bbSHORT_, bbES bdZ bcT bcNT bcTY bcCH bbU bcU bbNIKOLSBURG_UE bbRUDIM[TA_UE bbEV bcZ",
  "bdS bcNT-SHAPED<IGN bbUS 10CFA=oNUMB,_;E vFIVE vT[ vFIFTY v;E_HUND~D zTHOUS.D",
  "aH.IFI_ROH*GYA_+TT,_A xBA xPA xTA yTA xJA xCA xHA xKHA xFA xDA yDA xRA yRA xZA xSA yHA xKA xGA",
  "xLA xMA xNA xWA xK*NA_WA xYA xK*NA_YA xNGA yYA xVA qVOWEL_A wI wU wE wO qM&K<AK* vNA_KH;NA",
  "qSIGN_H&BAHAY vTAH%A xNA xSSI 10D30=qDIGIT_Z,O w;E wTWO xH~E wFOUR xIVE wSIX xEV[ wE( wN*E",
  "10E60=aRUMI_DIGIT_;E lTWO mH~E lFOUR mIVE lSIX mEV[ lE( lN*E fNUMB,_T[ nW[TY nHIRTY mFORTY",
  "nIFTY mSIXTY nEV[TY mE(Y mN*ETY m;E_HUND~D mTWO_HUND~D nH~E_HUND~D mFOUR_HUND~D nIVE_HUND~D",
  "mSIX_HUND~D nEV[_HUND~D mE(_HUND~D mN*E_HUND~D fFRAC^;_;E_H%F sQU&T, sTHIRD oTWO_THIRDS",
  "10E80=aYEZIDI_+TT,_ELIF oBE oPE pHE oTHE oSE oCIM pHIM qHIM oHHA oXA oD% oZ% oRA pHA oZA oJA",
  "oS* pH* pAD oDAD oTA oZE oEYN oXHEYN oFA oVA q_%T,NATE) oQAF oKAF pHAF oGAF oLAM oMIM oNUN oUM",
  "oWAW oOW oEW oHAY oYOT oET 10EAB=hCOMB**G_HAMZA_M&K rMADDA_M&K hHYPH[A^;_M&K",
  "10EB0=h+TT,_LAM#DOT? oYOT#CIRCUMF+X? 10F00=aOLD<OGDI._+TT,_%EPH tF*%_%EPH tBETH tF*%_BETH",
  "tGIMEL tHE tF*%_HE tWAW tZAY* tHETH tYODH tKAPH tLAMEDH tMEM tNUN tF*%_NUN bc#V,^C%_TAIL",
  "tSAMEKH tAY* uLT,NATE_AY* tPE tSADHE tF*%<ADHE be#V,^C%_TAIL t~SH-AY*-D%ETH tSH* tTAW tF*%_TAW",
  "bc#V,^C%_TAIL mNUMB,_;E tTWO uH~E tFOUR uIVE tT[ uW[TY uHIRTY t;E_HUND~D mFRAC^;_;E_H%F",
  "mLIGATU~_AY*-D%ETH 10F30=aSOGDI._+TT,_%EPH pBETH pGIMEL pHE pWAW pZAY* pHETH pYODH pKAPH",
  "pLAMEDH pMEM pNUN pSAMEKH pAY* pPE pSADHE p~SH-AY* pSH* pTAW pFETH p+SH i*DEP[D[T<H*",
  "iCOMB**G_DOT_BELOW sTWO_DOTS_BELOW sDOT? sTWO_DOTS? sCURVE? yBELOW sHOOK? xBELOW",
  "sL;G_HOOK_BELOW s~SH_BELOW sSTROKE_BELOW iNUMB,_;E pT[ qW[TY p;E_HUND~D",
  "iPUNCTUA^;_TWO_V,^C%_B&S bl#DOTS uCIRC+#DOT uTWO_CIRC+S#DOTS uH%F_CIRC+#DOT",
  "10F70=aOL]UYGHUR_+TT,_%EPH sBETH sGIMEL-HETH sWAW sZAY* sF*%_HETH sYODH sKAPH sLAMEDH sMEM",
  "sNUN sSAMEKH sPE sSADHE s~SH sSH* sTAW s+SH lCOMB**G_DOT? zBELOW vTWO_DOTS? beBELOW",
  "lPUNCTUA^;_B& xTWO_B&S bbDOTS xFOUR_DOTS 10FB0=aCHORASMI._+TT,_%EPH sSM%L_%EPH sBETH sGIMEL",
  "sD%ETH sHE sWAW sCUR+]WAW sZAY* sHETH sYODH sKAPH sLAMEDH sMEM sNUN sSAMEKH sAY* sPE s~SH sSH*",
  "sTAW lNUMB,_;E sTWO tH~E sFOUR sT[ tW[TY s;E_HUND~D 10FE0=aELYMAIC_+TT,_%EPH pBETH pGIMEL",
  "pD%ETH pHE pWAW pZAY* pHETH pTETH pYODH pKAPH pLAMEDH pMEM pNUN pSAMEKH pAY* pPE pSADHE pQOPH",
  "p~SH pSH* pTAW jIGATU~_ZAY*-YODH 11000=aBRAHMI<IGN_C.DRAB*DU m.USV&A mVIS&GA mJIHVAMULIYA",
  "mUPADHM.IYA h+TT,_A pA oI pI oU pU oVOC%IC_R xR wL xL oE oAI oO oAU oKA pHA oGA pHA oNGA oCA",
  "pHA oJA pHA oNYA oTTA qHA oDDA qHA oNNA oTA pHA oDA pHA oNA oPA pHA oBA pHA oMA oYA oRA oLA",
  "oVA oSHA pSA pA oHA oLLA oOL]TAMIL_LLLA yRRA yNNNA hVOWEL<IGN_AA sBHAT^PROLU_AA sI tI sU tU",
  "sVOC%IC_R bbR baL bbL sE sAI sO sAU iIRAMA hD.DA iOUB+_D.DA hPUNCTUA^;_DOT vUB+_DOT tL*E",
  "tC~SC[T_B& tLOTUS 11052=hNUMB,_;E oTWO pH~E oFOUR pIVE oSIX pEV[ oE( oN*E oT[ pW[TY pHIRTY"]

/-- Names from code point 1105E on. -/
def namesFrom1105E : List String := [
  "oFORTY pIFTY oSIXTY pEV[TY oE(Y oN*ETY o;E_HUND~D sTHOUS.D hDIGIT_Z,O n;E nTWO oH~E nFOUR oIVE",
  "nSIX oEV[ nE( nN*E hSIGN_OL]TAMIL_VIRAMA h+TT,_OL]TAMIL<HORT_E beO hVOWEL<IGN_OL]TAMIL<HORT_E",
  "biO h+TT,_OL]TAMIL_LLA 1107F=hNUMB,_JO*, aKAITHI<IGN_C.DRAB*DU m.USV&A mVIS&GA h+TT,_A pA oI",
  "pI oU pU oE oAI oO oAU oKA pHA oGA pHA oNGA oCA pHA oJA pHA oNYA oTTA qHA oDDA qDHA qHA oRHA",
  "oNNA oTA pHA oDA pHA oNA oPA pHA oBA pHA oMA oYA oRA oLA oVA oSHA pSA pA oHA hVOWEL<IGN_AA sI",
  "tI sU tU sE sAI sO sAU hSIGN_VIRAMA mNUKTA hABB~VIA^;<IGN h[UM,A^;<IGN hNUMB,<IGN hSEC^;_M&K",
  "hDOUB+<EC^;_M&K i.DA iOUB+_D.DA hVOWEL<IGN_VOC%IC_R 110CD=hNUMB,<IGN?",
  "110D0=aSORA<OMP[G_+TT,<AH uTAH uBAH uCAH uDAH uGAH uMAH uNGAH uLAH uNAH uVAH uPAH uYAH uRAH",
  "uHAH uKAH uJAH uNYAH uAH uEEH uIH uUH uOH uEH uMAE 110F0=nDIGIT_Z,O t;E tTWO uH~E tFOUR uIVE",
  "tSIX uEV[ tE( tN*E 11100=aCHAKMA<IGN_C.DRAB*DU m.USV&A mVIS&GA h+TT,_AA oI oU oE oKAA pHAA",
  "oGAA pHAA oNGAA oCAA pHAA oJAA pHAA oNYAA oTTAA qHAA oDDAA qHAA oNNAA oTAA pHAA oDAA pHAA oNAA",
  "oPAA pHAA oBAA pHAA oMAA oYYAA pAA oRAA oLAA oWAA oSAA oHAA hVOWEL<IGN_A sI tI sU tU sE sAI sO",
  "sAU sOI hO_M&K hAU_M&K hVIRAMA hMAAYYAA 11136=hDIGIT_Z,O n;E nTWO oH~E nFOUR oIVE nSIX oEV[",
  "nE( nN*E hSEC^;_M&K hD.DA iOUB+_D.DA hQUES^;_M&K h+TT,_LHAA hVOWEL<IGN_AA sEI h+TT,_VAA",
  "11150=aMAHAJ.I_+TT,_A qI qU qE qO qKA rHA qGA rHA qCA rHA qJA rHA qNYA qTTA sHA qDDA sHA qNNA",
  "qTA rHA qDA rHA qNA qPA rHA qBA rHA qMA qRA qLA qVA qSA qHA qRRA jSIGN_NUKTA jABB~VIA^;<IGN",
  "jSEC^;_M&K jLIGATU~<HRI 11180=aSH&ADA<IGN_C.DRAB*DU n.USV&A nVIS&GA i+TT,_A qA pI qI pU qU",
  "pVOC%IC_R yR xL yL pE pAI pO pAU pKA qHA pGA qHA pNGA pCA qHA pJA qHA pNYA pTTA rHA pDDA rHA",
  "pNNA pTA qHA pDA qHA pNA pPA qHA pBA qHA pMA pYA pRA pLA qLA pVA pSHA qSA qA pHA iVOWEL<IGN_AA",
  "tI uI tU uU tVOC%IC_R bcR bbL bcL tE tAI tO tAU iSIGN_VIRAMA nAVAGRAHA nJIHVAMULIYA",
  "nUPADHM.IYA iOM iD.DA jOUB+_D.DA iABB~VIA^;<IGN iSEP&ATOR j.DHI_M&K jIGN_NUKTA",
  "iVOWEL_MODIFI,_M&K iEXTRA<HORT_VOWEL_M&K iSUTRA_M&K iVOWEL<IGN_PRISHTHAMATRA_E",
  "iSIGN_*V,TE]C.DRAB*DU iDIGIT_Z,O o;E oTWO pH~E oFOUR pIVE oSIX pEV[ oE( oN*E iEKAM",
  "iSIGN<IDDHAM iHEADSTROKE iC;T*UA^;<IGN iSEC^;_M&K-1 v2 111E1=b*H%A_&CHAIC_DIGIT_;E wTWO xH~E",
  "wFOUR xIVE wSIX xEV[ wE( wN*E qNUMB,_T[ yW[TY yHIRTY xFORTY yIFTY xSIXTY yEV[TY xE(Y xN*ETY",
  "x;E_HUND~D bbTHOUS.D 11200=aKHOJKI_+TT,_A pA oI oU oE oAI oO oAU oKA pHA oGA pGA pHA oNGA oCA",
  "pHA oJA pJA 11213=oNYA oTTA qHA oDDA qHA oNNA oTA pHA oDA pDDA pHA oNA oPA pHA oBA pBA pHA oMA",
  "oYA oRA oLA oVA oSA oHA oLLA hVOWEL<IGN_AA sI tI sU sE sAI sO sAU hSIGN_.USV&A mVIRAMA mNUKTA",
  "mSHADDA hD.DA iOUB+_D.DA hWORD<EP&ATOR hSEC^;_M&K hDOUB+<EC^;_M&K hABB~VIA^;<IGN hSIGN<UKUN",
  "11280=aMULT.I_+TT,_A pI pU pE pKA qHA pGA 11288=qHA 1128A=pCA qHA pJA qJA 1128F=pNYA pTTA rHA",
  "pDDA rDA rHA pNNA pTA qHA pDA qHA pNA pPA qHA pBA 1129F=qHA pMA pYA pRA pLA pVA pSA pHA pRRA",
  "qHA iSEC^;_M&K 112B0=aKHUDAWADI_+TT,_A sA rI sI rU sU rE rAI rO rAU rKA sHA rGA sGA sHA rNGA",
  "rCA sHA rJA sJA sHA rNYA rTTA tHA rDDA tDA rRRA rDDHA rNNA rTA sHA rDA sHA rNA rPA sHA rBA sBA",
  "sHA rMA rYA rRA rLA rVA rSHA sA rHA kSIGN_.USV&A kVOWEL<IGN_AA vI wI vU wU vE vAI vO vAU",
  "kSIGN_NUKTA pVIRAMA 112F0=kDIGIT_Z,O q;E qTWO rH~E qFOUR rIVE qSIX rEV[ qE( qN*E",
  "11300=aGR.THA<IGN_COMB**G_.USV&A? o.DRAB*DU n.USV&A nVIS&GA 11305=i+TT,_A qA pI qI pU qU",
  "pVOC%IC_R xL 1130F=pEE pAI 11313=pOO pAU pKA qHA pGA qHA pNGA pCA qHA pJA qHA pNYA pTTA rHA",
  "pDDA rHA pNNA pTA qHA pDA qHA pNA 1132A=pPA qHA pBA qHA pMA pYA pRA 11332=pLA qLA 11335=pVA",
  "pSHA qSA qA pHA 1133B=aCOMB**G_B*DU_BELOW aGR.THA<IGN_NUKTA nAVAGRAHA iVOWEL<IGN_AA tI uI tU",
  "uU tVOC%IC_R bcR 11347=tEE tAI 1134B=tOO tAU iSIGN_VIRAMA 11350=iOM 11357=iAU_+NGTH_M&K",
  "1135D=iSIGN_PLUTA i+TT,_VEDIC_.USV&A vDOUB+_.USV&A qOC%IC_RR xLL iVOWEL<IGN_VOC%IC_L bcL",
  "11366=aCOMB**G_GR.THA_DIGIT_Z,O y;E yTWO zH~E yFOUR zIVE ySIX 11370=s+TT,_A zKA zNA zVI zPA",
  "11400=aNEWA_+TT,_A nA mI nI mU nU mVOC%IC_R vR uL vL mE mAI mO mAU mKA nHA mGA nHA mNGA oHA",
  "mCA nHA mJA nHA mNYA oHA mTTA oHA mDDA oHA mNNA mTA nHA mDA nHA mNA nHA mPA nHA mBA nHA mMA",
  "nHA mYA mRA nHA mLA nHA mWA mSHA nSA nA mHA fVOWEL<IGN_AA qI rI qU rU qVOC%IC_R zR yL zL qE",
  "qAI qO qAU fSIGN_VIRAMA kC.DRAB*DU k.USV&A kVIS&GA kNUKTA kAVAGRAHA kF*%_.USV&A fOM fSIDDHI",
  "fD.DA gOUB+_D.DA fCOMMA fGAP_FIL+R fABB~VIA^;<IGN fDIGIT_Z,O l;E lTWO mH~E lFOUR mIVE lSIX",
  "mEV[ lE( lN*E gOUB+_COMMA fPLACEHOLD,_M&K 1145D=f*S,^;<IGN fS.DHI_M&K f+TT,_VEDIC_.USV&A",
  "fSIGN_JIHVAMULIYA kUPADHM.IYA 11480=a^RHUTA_.JI i+TT,_A qA pI qI pU qU pVOC%IC_R yR xL yL pE",
  "pAI pO pAU pKA qHA pGA qHA pNGA pCA qHA pJA qHA pNYA pTTA rHA pDDA rHA pNNA pTA qHA pDA qHA",
  "pNA pPA qHA pBA qHA pMA pYA pRA pLA pVA pSHA qSA qA pHA iVOWEL<IGN_AA tI uI tU uU tVOC%IC_R",
  "bcR bbL bcL tE tSHORT_E tAI tO tSHORT_O tAU iSIGN_C.DRAB*DU n.USV&A nVIS&GA pRAMA nNUKTA",
  "nAVAGRAHA iGV.G iABB~VIA^;<IGN iOM 114D0=iDIGIT_Z,O o;E oTWO pH~E oFOUR pIVE oSIX pEV[ oE(",
  "oN*E 11580=aSIDDHAM_+TT,_A qA pI qI pU qU pVOC%IC_R yR xL yL pE pAI pO pAU pKA qHA pGA qHA",
  "pNGA pCA qHA pJA qHA pNYA pTTA rHA pDDA rHA pNNA pTA qHA pDA qHA pNA pPA qHA pBA qHA pMA pYA",
  "pRA pLA pVA pSHA qSA qA pHA iVOWEL<IGN_AA tI uI tU uU tVOC%IC_R bcR 115B8=tE tAI tO tAU",
  "iSIGN_C.DRAB*DU n.USV&A nVIS&GA pRAMA nNUKTA nSIDDHAM iD.DA jOUB+_D.DA iSEP&ATOR_DOT sB&",
  "i~PE^^;_M&K-1 y2 y3 i[]OF_TEXT_M&K iSEC^;_M&K#TRID[T_.]U-SHAPE]ORNAM[TS bmDOTTE]C~SC[TS",
  "baRAYS_.]DOTTE]C~SC[TS bqDOUB+_C~SC[TS bqTRIP+_C~SC[TS vDOUB+_R*G bg#RAYS vWITH_DOUB+_C~SC[TS",
  "baTRIP+_C~SC[TS baQUADRUP+_C~SC[TS baSEPTUP+_C~SC[TS baCIRC+S_.]RAYS bmTWO_[CLOSU~S",
  "bmFOUR_[CLOSU~S i+TT,_TH~E-CIRC+_%T,NATE_I qWO-CIRC+_%T,NATE_I blI p%T,NATE_U",
  "iVOWEL<IGN_%T,NATE_U beU 11600=aMODI_+TT,_A nA mI nI mU nU mVOC%IC_R vR uL vL mE mAI mO mAU",
  "mKA nHA mGA nHA mNGA mCA nHA mJA nHA mNYA mTTA oHA mDDA oHA mNNA mTA nHA mDA nHA mNA mPA nHA",
  "mBA nHA mMA mYA mRA mLA mVA mSHA nSA nA mHA mLLA fVOWEL<IGN_AA qI rI qU rU qVOC%IC_R zR yL zL",
  "qE qAI qO qAU fSIGN_.USV&A kVIS&GA mRAMA k&DHAC.DRA fD.DA gOUB+_D.DA fABB~VIA^;<IGN fSIGN_HUVA",
  "11650=fDIGIT_Z,O l;E lTWO mH~E lFOUR mIVE lSIX mEV[ lE( lN*E 11660=cNGOLI._BIRGA#ORNAM[T",
  "kROTATE]BIRGA kDOUB+_BIRGA#ORNAM[T kTRIP+_BIRGA#ORNAM[T kBIRGA#DOUB+_ORNAM[T",
  "kROTATE]BIRGA#ORNAM[T bdDOUB+_ORNAM[T k*V,TE]BIRGA y#DOUB+_ORNAM[T kSWIRL_BIRGA v#ORNAM[T",
  "bbDOUB+_ORNAM[T kTURNED<WIRL_BIRGA#DOUB+_ORNAM[T 11680=aTAKRI_+TT,_A oA nI oI nU oU nE nAI nO",
  "nAU nKA oHA nGA oHA nNGA nCA oHA nJA oHA nNYA nTTA pHA nDDA pHA nNNA nTA oHA nDA oHA nNA nPA",
  "oHA nBA oHA nMA nYA nRA nLA nVA nSHA oA nHA nRRA gSIGN_.USV&A lVIS&GA gVOWEL<IGN_AA rI sI rU",
  "sU rE rAI rO rAU gSIGN_VIRAMA lNUKTA g+TT,_&CHAIC_KHA gABB~VIA^;<IGN 116C0=gDIGIT_Z,O m;E mTWO",
  "nH~E mFOUR nIVE mSIX nEV[ mE( mN*E 11700=aAHOM_+TT,_KA nHA mNGA nA mTA m%T,NATE_TA mPA nHA mBA",
  "mMA mJA mCHA mTHA mRA mLA mSA mNYA mHA mA mDA nHA mGA m%T,NATE_GA mGHA mBHA mJHA m%T,NATE_BA",
  "1171D=fC;S;.T<IGN_MEDI%_LA bbRA bbLIGAT*G_RA fVOWEL<IGN_A rA qI rI qU rU qE qAW qO qAI rM",
  "fSIGN_KIL+R 11730=fDIGIT_Z,O l;E lTWO mH~E lFOUR mIVE lSIX mEV[ lE( lN*E fNUMB,_T[ nW[TY",
  "fSIGN<M%L<EC^; lEC^; kRULAI gYMBOL_VI f+TT,_CA mTTA oHA mDDA oHA mNNA mLLA 11800=aDOGRA_+TT,_A",
  "oA nI oI nU oU nE nAI nO nAU nKA oHA nGA oHA nNGA nCA oHA nJA oHA nNYA nTTA pHA nDDA pHA nNNA",
  "nTA oHA nDA oHA nNA nPA oHA nBA oHA nMA nYA nRA nLA nVA nSHA oSA oA nHA nRRA gVOWEL<IGN_AA rI",
  "sI rU sU rVOC%IC_R baR rE rAI rO rAU gSIGN_.USV&A lVIS&GA nRAMA lNUKTA gABB~VIA^;<IGN",
  "118A0=aW&.G_CI^_$NGAA bbA bbWI bbYU bcA bcO bbII bbUU bbE bbO bb.G bbGA bbKO bb[Y bbYUJ bbUC",
  "bb[N bbODD bbTTE bbNUNG bbDA bbAT bcM bbBU bbPU bbHIYO bcOLO bdRR bc& bbSSUU bcII bbVIYO",
  "m@NGAA zA zWI zYU baA baO zII zUU zE zO z.G zGA zKO z[Y zYUJ zUC z[N zODD zTTE zNUNG zDA zAT",
  "baM zBU zPU zHIYO baOLO bbRR ba& zSSUU baII zVIYO mDIGIT_Z,O s;E sTWO tH~E sFOUR tIVE sSIX",
  "tEV[ sE( sN*E mNUMB,_T[ uW[TY uHIRTY tFORTY uIFTY tSIXTY uEV[TY tE(Y tN*ETY 118FF=mOM",
  "aDIVES_AKURU_+TT,_A uA tI uI tU uU tE 11909=tO 1190C=tKA uHA tGA uHA tNGA tCA uHA tJA",
  "11915=tNYA tTTA 11918=tDDA vHA tNNA tTA uHA tDA uHA tNA tPA uHA tBA uHA tMA tYA uYA tRA tLA",
  "tVA tSHA uSA uA tHA tLLA tZA mVOWEL<IGN_AA xI yI xU yU xE 11937=xAI xO 1193B=mSIGN_.USV&A",
  "rC.DRAB*DU rH%.TA mVIRAMA mP~FIXE]NAS%<IGN mMEDI%_YA m*I^%_RA mMEDI%_RA mSIGN_NUKTA",
  "mDOUB+_D.DA mGAP_FIL+R m[]OF_TEXT_M&K 11950=mDIGIT_Z,O s;E sTWO tH~E sFOUR tIVE sSIX tEV[ sE(",
  "sN*E 119A0=aN.D*AG&I_+TT,_A uA tI uI tU uU tVOC%IC_R bcR 119AA=tE tAI tO tAU tKA uHA tGA uHA",
  "tNGA tCA uHA tJA uHA tNYA tTTA vHA tDDA vHA tNNA tTA uHA tDA uHA tNA tPA uHA tBA uHA tMA tYA",
  "tRA tLA tVA tSHA uSA uA tHA tLLA tRRA mVOWEL<IGN_AA xI yI xU yU xVOC%IC_R bgR 119DA=xE xAI xO",
  "xAU mSIGN_.USV&A rVIS&GA tRAMA rAVAGRAHA rSIDDHAM mHEADSTROKE mVOWEL<IGN_PRISHTHAMATRA_E",
  "11A00=aZ.ABAZ&<QU&E_+TT,_A rVOWEL<IGN_I bcUE bd bcE bcOE bd bcAI bdU bc~V,SE]I x+NGTH_M&K",
  "r+TT,_KA zHA yGA zHA yNGA yCA zHA yJA yNYA yTTA baHA yDDA baHA yNNA yTA zHA yDA zHA yNA yPA",
  "zHA yBA zHA yMA yTSA baHA yDZA baHA yZHA zA y-A yYA yRA yLA yVA ySHA zSA zA yHA yKSSA",
  "rF*%_C;S;.T_M&K rSIGN_VIRAMA wC.DRAB*DU bh#ORNAM[T bc#ORNAM[T w.USV&A wVIS&GA rCLUST,-*I^A!RA",
  "zF*A!YA bmRA bmLA bmVA r*I^%_HEA]M&K rCLOS*G_HEA]M&K rM&K_TSHEG wSHAD wDOUB+<HAD wL;G_TSHEG",
  "r*I^%_DOUB+-L*E]HEA]M&K rCLOS*G_DOUB+-L*E]HEA]M&K rSUBJO*, 11A50=aSOYOMBO_+TT,_A iVOWEL<IGN_I",
  "tUE u tE tO uE tAI uU tVOC%IC_R bbL o+NGTH_M&K i+TT,_KA qHA pGA qHA pNGA pCA qHA pJA qHA pNYA",
  "pTTA rHA pDDA rHA pNNA pTA qHA pDA qHA pNA pPA qHA pBA qHA pMA pTSA rHA pDZA pZHA qA p-A pYA",
  "pRA pLA pVA pSHA qSA qA pHA pKSSA iSIGN_JIHVAMULIYA nUPADHM.IYA iCLUST,-*I^A!RA bfLA bfSHA bgA",
  "iF*%_C;S;.T<IGN_G bdK bdNG bdD bdN bdB bdM bdR bdL bdSH be bd-A iSIGN_.USV&A nVIS&GA",
  "iGEM*A^;_M&K iSUBJO*, iM&K_TSHEG nSHAD nDOUB+<HAD nPLUTA iHEA]M&K#MO;_.D<UN_.]TRIP+_FLAME",
  "boFLAME bj iT,M*%_M&K-1 w2 11AB0=aC.ADI.<YLLABICS_NAT^LIK_HI beI bdO beO bdA beA bcSHRI bgI",
  "bfO bgO bfA bgA tSPE vI vO vA aPAU_C*_HAU_+TT,_PA tKA tLA tMA tDA tZA tVA tNGA tHA tGA tKHA",
  "tSA tBA tCA tTA uHA tNA tPHA tRA tFA tCHA tA tE tI tO tU uA tIA tF*%_P zK zT zM zN zL zW zNG",
  "zY mRIS*G_T;E_L;G x mS.DHI_GLOTT%<TOP mRIS*G_T;E_L;G_F*% yF*% mS.DHI_GLOTT%<TOP_F*% tT;E_L;G x",
  "x_L;G_F*% yF*% mMID-+VEL_T;E mGLOTT%<TOP_V&I.T mMID-+VEL_T;E_L;G_F*% bbF*% mLOW-F%L*G_T;E_L;G",
  "bc mGLOTT%<TOP mLOW-F%L*G_T;E_L;G_F*% bdF*% mGLOTT%<TOP_F*% 11C00=aBHAIKSUKI_+TT,_A sA rI sI",
  "rU sU rVOC%IC_R baR zL 11C0A=rE rAI rO rAU rKA sHA rGA sHA rNGA rCA sHA rJA sHA rNYA rTTA tHA",
  "rDDA tHA rNNA rTA sHA rDA sHA rNA rPA sHA rBA sHA rMA rYA rRA rLA rVA rSHA sSA sA rHA",
  "kVOWEL<IGN_AA vI wI vU wU vVOC%IC_R beR bdL 11C38=vE vAI vO vAU kSIGN_C.DRAB*DU p.USV&A",
  "pVIS&GA rRAMA pAVAGRAHA kD.DA lOUB+_D.DA kWORD<EP&ATOR kGAP_FIL+R-1 v2 11C50=kDIGIT_Z,O q;E",
  "qTWO rH~E qFOUR rIVE qSIX rEV[ qE( qN*E kNUMB,_;E rTWO sH~E rFOUR sIVE rSIX sEV[ rE( rN*E rT[",
  "sW[TY sHIRTY rFORTY sIFTY rSIXTY sEV[TY rE(Y rN*ETY kHUND~DS_UNIT_M&K 11C70=aM&CH[_HEA]M&K",
  "iM&K<HAD i+TT,_KA qHA pGA pNGA pCA qHA pJA pNYA pTA qHA pDA pNA pPA qHA pBA pMA pTSA rHA pDZA",
  "pWA pZHA qA p-A pYA pRA pLA pSHA qA pHA pA 11C92=iSUBJO*E]+TT,_KA baHA zGA zNGA zCA baHA zJA",
  "zNYA zTA baHA zDA zNA zPA baHA zBA zMA zTSA bbHA zDZA zWA zZHA baA 11CA9=zYA zRA zLA zSHA baA",
  "zHA zA iVOWEL<IGN_AA tI tU tE tO iSIGN_.USV&A nC.DRAB*DU 11D00=cS&AM_G;DI_+TT,_A wA vI wI vU",
  "wU vE 11D08=vAI vO 11D0B=vAU vKA wHA vGA wHA vNGA vCA wHA vJA wHA vNYA vTTA xHA vDDA xHA vNNA",
  "vTA wHA vDA wHA vNA vPA wHA vBA wHA vMA vYA vRA vLA vVA vSHA wSA wA vHA vLLA vKSSA vJNYA vTRA",
  "oVOWEL<IGN_AA zI baI zU baU zVOC%IC_R 11D3A=zE 11D3C=zAI zO 11D3F=zAU oSIGN_.USV&A tVIS&GA",
  "tNUKTA tC.DRA tH%.TA oVIRAMA o~PHA pA-K&A 11D50=oDIGIT_Z,O u;E uTWO vH~E uFOUR vIVE uSIX vEV[",
  "uE( uN*E 11D60=aGUNJ%A_G;DI_+TT,_A wA vI wI vU wU 11D67=vEE vAI 11D6A=vOO vAU vYA vVA vBA wHA",
  "vMA vKA wHA vTA wHA vLA vGA wHA vDA wHA vNA vCA wHA vTTA xHA vLLA vJA wHA vDDA xHA vNGA vPA",
  "wHA vHA vRA vSA oVOWEL<IGN_AA zI baI zU baU 11D90=zEE zAI 11D93=zOO zAU oSIGN_.USV&A tVIS&GA",
  "oVIRAMA oOM 11DA0=oDIGIT_Z,O u;E uTWO vH~E uFOUR vIVE uSIX vEV[ uE( uN*E 11EE0=aMAKAS&_+TT,_KA",
  "pGA pNGA pPA pBA pMA pTA pDA pNA pCA pJA pNYA pYA pRA pLA pVA pSA pA i.GKA iVOWEL<IGN_I tU tE",
  "tO iPASSIMB.G i[]OF<EC^; 11FB0=aLISU_+TT,_YHA 11FC0=aTAMIL_FRAC^;_;E_TH~E-HUND~D-.D-TW[^ETH",
  "t;E-HUND~D-.D-SIX^ETH tE(IETH tSIXTY-FOURTH tFOR^ETH tTHIRTY-SEC;D pTH~E_E(IETHS",
  "vSIXTY-FOURTHS p;E_TW[^ETH tSIXTE[TH-1 bd2 tT[TH tE(H pTH~E_TW[^ETHS vSIXTE[THS p;E_FIFTH",
  "tQU&T, tH%F-1 y2 pTH~E_QU&T,S pDOWNSC%*G_FACTOR_KIIZH gSIGN_NEL lCEVITU lAAZHAAKKU lUZHAKKU",
  "lMUUVUZHAKKU lKURUNI lPATHAKKU lMUKKURUNI lKAACU lP.AM m; lV&AAK. lPA&AM lKUZHI lVELI",
  "gWET_CUL^VA^;<IGN gDRY_CUL^VA^;<IGN gL.D<IGN gS%T_P.<IGN gTRADI^;%_C~DIT<IGN sNUMB,<IGN",
  "gCURR[T<IGN g.]ODD<IGN gSP[T<IGN gTOT%<IGN g*_POSSESSI;<IGN gST&T*G_FROM<IGN hIGN_MUTH%IYA",
  "lVAKAIY&AA 11FFF=gPUNCTUA^;_[]OF_TEXT aCUNEIFORM<IGN_A q_^MES_A xBAD xG.2_T[U xHA xIGI",
  "xLAG&_GUNU xMUSH xSAG q2 qB r_^MES_ASH2 yDUN3_GUNU yG% baN2_T[U yHA yIGI_GUNU zM* yLAGAB",
  "ySHESH yU_PLUS_U_PLUS_U sGUNU r2 s_^MES_B%AG zG.2_T[U zME_PLUS_[ zSHA3 zTAK4 qD qK r_^MES_,*2",
  "ySHITA_PLUS_GISH qL r_^MES_% yDIM2 yGISH yHA yKAD3 zI ySHE yUSH r. rEPH qM& t_^MES<HE qN",
  "r_OV,_. sTH~E_^MES sPLUS_NAGA_OPPOS*G_._PLUS_NAGA bcSQU&ED rSHE qP* qRAD t_^MES_KUR rKAB qS%2",
  "rH s_ZIDA_T[U tKABA_T[U tOV,_ASH_TUG2_OV,_TUG2_TUG2_OV,_TUG2_PAP bcOV,_ASH",
  "bk_CROSS*G_ASH_OV,_ASH_OV,_ASH s2 sGAB pBA rD rG3 rH&2 rL s_OV,_B% sAG rR sA2 qI r_^MES_A yG&",
  "yIGI_GUNU qU r_OV,_BU_AB baUN sCROSS*G_BU rLUG u_OV,_BULUG rR s2 pDA rG",
  "s_KISIM5_^MES_A_PLUS_MASH bhM& bgB%AG bhI bgGA bi_PLUS_MASH bhI biR2 bhUD bgHA bgIR bi_PLUS_LU",
  "bgKAK bgLA bhU bi_PLUS_MASH2 biM bgNE bgPAP_PLUS_PAP bgSI bgTAK4 bgU2_PLUS_GIR2 bhSH rM rR sA3",
  "t4 qI rB rM s_^MES<HE s2 rN s_KASK%_U_GUNU_DISH rSH qU r_OV,_DU sGUNU sSHESHIG rB s_^MES_ESH2",
  "s2 rG sUD rH rN s3 t_GUNU y_GUNU s4 rR2 pE q_^MES_PAP rOV,_E_NUN_OV,_NUN q2",
  "r_^MES_A_PLUS_HA_PLUS_DA yG& yMI yS% zHE yU qD* qGIR qL qN r_^MES_G.2 bc_T[U yME sCROSS*G_[",
  "sOPPOS*G_[ sSQU&ED qR[ r*2 qSH2 qZ[ t_^MES_A bb_PLUS_L% bk_^MES_L% bbN baBAD baDUN3_GUNU",
  "bj_GUNU baHA bc_GUNU baIGI_GUNU baKASK% bg<QU&ED bbU3 baLA bcL_^MES_L% bbI bbU baU2 bbD pGA",
  "r_GUNU r2 s_^MES_A_PLUS_DA_PLUS_HA bgHA bgIGI baB2_T[U_PLUS_TAB baN baSH bc2_PLUS_G% zBAD",
  "bbR_PLUS_RA baUR bc_PLUS_RA zDA baI bbM_^MES<HE baUB zEL bb_PLUS_LA baN bb_^MES_G.2_T[U",
  "zG.2_T[U bbR baI bb4 bc_PLUS_A bbR2_PLUS<U zHA_PLUS_LU_PLUS_ESH2 bbL bc_PLUS_LA baI_PLUS_LI",
  "baUB2 zIGI_GUNU baSH_PLUS_HU_PLUS_ASH zKAK bbSK% baID bc_PLUS_L% baU3_PLUS_. zLA zME_PLUS_[",
  "baI zNUN bc_OV,_NUN zPA zS% bbR baHE bc_PLUS_TUR bbID baUM zTAK4 zU baD bb_PLUS_DU tOV,_GA2",
  "rBA t_CROSS*G_GABA rD s_OV,_GA]G&_OV,_G& rL s_GA]OV,_GA]G&_OV,_G& sAM rM rN s2 t_T[U uOV,_G.2",
  "uCROSS*G_G.2 rR s3 rSH. qESHT* w_^MES_KUR qI r_^MES_E yU sCROSS*G_GI r4 s_OV,_GI4 tCROSS*G_GI4",
  "rDIM rR2 t_GUNU s3 t_^MES_A_PLUS_IGI baG.2_T[U baIGI baLU_PLUS_IGI baPA rS% sH t_CROSS*G_GISH",
  "u^MES_BAD baTAK4 v[U qU r_CROSS*G_GU r2 s_^MES_KAK bc_^MES_IGI_GUNU zNUN zS%_PLUS_TUG2 tGUNU",
  "rD s_^MES_A_PLUS_KUR zKUR tOV,_GU]LUG% rL rM s_^MES<HE rR s7 sUN tSH pHA r_T[U sGUNU rL qI",
  "r_^MES_ASH bb2 yBAD yDISH yGAD yK* yNUN ySHE yU qU rB2 t_^MES_. baH% baKASK% baLISH baUD rL2",
  "pI q_A qB qDIM t_OV,_IDIM_BUR beSQU&ED qG rI s_DIB tRI tOV,_IGI<HIR_OV,<HIR_U]OV,_UD tGUNU qL",
  "r_^MES_G.2_T[U r2 qM r_^MES_TAK4 sCROSS*G_IM sOPPOS*G_IM sSQU&ED r* qN qR qSH pKA r_^MES_A zD",
  "ba_PLUS_KU3 zSH2 yBAD baLAG baR zI y,*2 zSH2 yGA baL baN2_T[U baR bb_PLUS<HA3_PLUS_A zI baR2",
  "baSH_PLUS<& bdCROSS*G_GISH zU baR7 yIGI zM yKAK zI baD yLI zU yME ba_PLUS_DU bgGI bgTE zI",
  "ba_PLUS_NUNUZ yNE zUN yPI yRU ySA baR zHA baE baID baU zIG zUHUR yT& yU z2 zD zMUM_^MES_PA zSH",
  "yZI r2 s_CROSS*G_KA2 rB rD2 s3 s4 s5 t_OV,_KAD5 rK s_^MES_IGI_GUNU rL s_^MES_BAD tCROSS*G_K%",
  "rM2 s4 rSK% v_LAGAB_^MES_U_OV,_LAGAB_^MES_U wOV,_KASK%_LAGAB_^MES_U_OV,_LAGAB_^MES_U qESH2 qI",
  "r_^MES_BAD yU zD rD rN rS% sH sIM5 v_OV,_KISIM5 qU r_OV,_HI_^MES_ASH2_KU_OV,_HI_^MES_ASH2 r3",
  "r4 s_V&I.T) r7 rL s_GUNU rN rR s_OPPOS*G_KUR rSHU2 qWU318 pLA rGAB u_^MES_A bc_PLUS_DA_PLUS_HA",
  "biG& biL% bcL bcN bcSH_ZIDA_T[U bbBAD bcI bbD& bb[ bbGA bdR bcUD be_PLUS_GUD bbHA bdL",
  "bcI_^MES_NUN bbIGI_GUNU bcM bd_PLUS_HA bjLU bbKI bdN bcU3 bdL be_PLUS_HI_PLUS_A bbLAGAB bcISH",
  "bcU bdL bbME bd_PLUS_[ bcUSH bbNE bbSHE_PLUS<UM bdITA_PLUS_GISH_PLUS_,*2 brT[U bdU2",
  "bf_PLUS<HU2 bcUM bbTAG bdK4 bcE_PLUS_A_PLUS<U_PLUS_NA bbU bc_PLUS_A biU_PLUS_U bc2_PLUS_ASH",
  "bcD bcSH vSQU&ED tR u_^MES<HE be_PLUS<UM vGUNU z_OV,_LAG&_GUNU<HE rHSHU rL s_^MES_L% rM",
  "s_^MES_KUR bc_PLUS_RU qI rL rMMU2 rSH qU r_^MES_BAD r2 s_^MES_% zBAD zESH2 bd_T[U zG.2_T[U",
  "zHI_^MES_BAD zIM zKAD2 bc3 bd_PLUS_ASH baI zLA_PLUS_ASH bbGAB zME_PLUS_[ zNE baU zSI_PLUS_ASH",
  "bbK2_PLUS_BU zTUG2 u[U tCROSS*G_LU2 tOPPOS*G_LU2 tSQU&ED uHESHIG r3 rG% u_OV,_LUG%",
  "wPPOS*G_LUG% vSHESHIG rH rL rM s_OV,_LUM bb_G&_OV,_G& pMA r_^MES_TAK4 sGUNU r2 rH rR rSH t2 qE",
  "rS qI rN qU r_OV,_MU rG s_GUNU rNSUB rRGU2 rSH t_^MES_A baKUR baZA uOV,_MUSH bd_^MES_A_PLUS_NA",
  "uCROSS*G_MUSH t3 u_^MES_A bc_PLUS_DI bbDI vGUNU pNA r2 rGA t_*V,TED u^MES<HU_T[U uOPPOS*G_NAGA",
  "tR rM_NU^LLU s s2 qE r_^MES_A yUD sSHESHIG qI r_^MES_E r2 rM s_^MES_G.2_T[U bbR_PLUS_G.2_T[U",
  "rNDA2 v_^MES_. bdSH bf_PLUS_ASH bcGUD bcME_PLUS_G.2_T[U bcNE bdUN bcSHE bf_PLUS_A_. bmSH",
  "bo_PLUS_ASH bcU2_PLUS_ASH bdSH rSAG qU r11 rN s_LAG&_^MES_G& bfMASH bfS%",
  "bi_OV,_NUN_LAG&_^MES<% bfUSH tT[U tOV,_NUN tCROSS*G_NUN bf_LAG&_OV,_LAG& sUZ u_AB2_^MES_ASHGAB",
  "bfBI bfDUG bfGUD bfIGI_GUNU bfKAD3 bfLA bfNE bfSILA3 bfU2 vKISIM5_^MES_BI bk_U pPA rD rN rP",
  "qESH2 qI r_^MES_A zB yBI zU yE yI zB yU z2 sCROSS*G_PI rRIG u_^MES_K% bbUD bbZA vOPPOS*G_PIRIG",
  "pRA rB qI qU pSA rG_NU^LLU s s_^MES_A zDU bbB zHA zKAK baUR zLUM zMI zNUN zS% baHID zTAB zU2",
  "baB baM baR baSH tOV,<AG tGUNU rL s_LAGAB_^MES_ASH2 rNGA2 rR qHA s3 t_^MES_A baBAD baGISH baNE",
  "baSHU2 baTUR baU bb_PLUS_A s6 sB6 sR2 rE s_HU tOV,<HE_GA]OV,_GA]G&_OV,_G&",
  "bcTAB_OV,_TAB_G&_OV,_G& sG9 sN sSH u2 uLAM rID t_^MES_A baIM sM t_^MES_A baB% bbULUG baD* baG&",
  "baIGI bd_GUNU baKUSHU2 baLUL baMUG baS% sNIG sR t_T[U uOV,<HIR_BUR_OV,_BUR sTA rU",
  "s_OV,_*V,TED<HU s2 sBUR qI r_GUNU rG s4 t_OV,<IG4<HU2 rK2 rLA3 qU r_OV,<U rD s2 rHUR rM sASH",
  "rR s9 pTA r_AST,ISK s^MES_HI yMI sGUNU rB s_OV,_TAB_NI_OV,_NI_DISH_OV,_DISH tSQU&ED rG",
  "s_^MES_BI zGUD zSHE bbU zTUG2 zUD rK4 rR qE r_GUNU qI r_T[U rL rR s_^MES_TAK4 tOV,_^R",
  "bb_GA]OV,_GA]G&_OV,_G& qU rG2 rK rM rR s_OV,_TUR_ZA_OV,_ZA pU q_GUD rU_U",
  "rOV,_U_PA_OV,_PA_G&_OV,_G& ySUR_OV,<UR yU_~V,SE]OV,_U_~V,SED q2 qB qD r_KUSHU2 s^MES_BAD yMI",
  "yU_PLUS_U_PLUS_U bn_GUNU sGUNU sSHESHIG z_^MES_BAD rUG qM r_^MES_LAGAB yME_PLUS_DA ySHA3 yU",
  "rB* rUM t_^MES_KASK% baPA qN r_GUNU qR r_CROSS*G_UR sSHESHIG r2 s_^MES_A_PLUS_HA bgNA baL zHA",
  "zNUN zU2 bb_PLUS_ASH bhBI r4 rI s3 rU s_^MES_A baSHGAB zB& zDUN zGA bbL bbN2_T[U bbR baU zHA",
  "zIGI baM baSH zKI zLUM zM* zPA zSHE baIG4 zTU zU_PLUS_GUD baD baRUDA sDA u_^MES_U qSH s_^MES_A",
  "zKU bbR zTAK4 sX s2 sUMX qTUKI qZ3 s_^MES_KASK% rU pZA r_T[U sSQU&E]^MES_KUR rG rMX qE2 qI",
  "r_OV,_ZI r3 rB s_KABA_T[U rG rZ2 qU r5 s_^MES_A rBUR rM pKAP_ELAMITE pAB_^MES_NUN r2_^MES_A",
  "qM&_^MES_KUG pDAG_KISIM5_^MES_U2_PLUS_MASH s3 qISH_PLUS<HU qUB_^MES<HE pEZ[_^MES_GUD baSHE",
  "pGA2_^MES_._PLUS_KAK_PLUS_A baSH2 qE22 qIG pHUSH pKA_^MES_.SHE zSH3 yGISH zUD yHI_^MES_ASH2",
  "yLUM yPA ySHUL yTU yUR2 pLAGAB_^MES_GI qU2<HESHIG_^MES_BAD t^MES_ESH2_PLUS_L% zSHU pMESH",
  "qUSH3_^MES_ZA pNA4 q* s9 sDA2_^MES_B% bcGI qU11_ROTATE]N*ETY_DEG~ES pPESH2_AST,ISK qIR2",
  "pSAG_^MES_IGI_GUNU p^2 pUM_^MES_ME q_U 12400=kNUM,IC<IGN_TWO_ASH yH~E_ASH xFOUR_ASH yIVE_ASH",
  "xSIX_ASH yEV[_ASH xE(_ASH xN*E_ASH xTH~E_DISH xFOUR_DISH yIVE_DISH xSIX_DISH yEV[_DISH",
  "xE(_DISH xN*E_DISH xFOUR_U yIVE_U xSIX_U yEV[_U xE(_U xN*E_U x;E_GESH2 xTWO_GESH2 yH~E_GESH2",
  "xFOUR_GESH2 yIVE_GESH2 xSIX_GESH2 yEV[_GESH2 xE(_GESH2 xN*E_GESH2 x;E_GESHU xTWO_GESHU",
  "yH~E_GESHU xFOUR_GESHU yIVE_GESHU xTWO<H&2 yH~E<H&2 bi_V&I.T) xFOUR<H&2 yIVE<H&2 xSIX<H&2",
  "yEV[<H&2 xE(<H&2 xN*E<H&2 x;E<H&U xTWO<H&U yH~E<H&U bi_V&I.T) xFOUR<H&U yIVE<H&U",
  "xSH&2_^MES_G%_PLUS_DISH bsM* x;E_BURU xTWO_BURU yH~E_BURU bh_V&I.T) xFOUR_BURU yIVE_BURU",
  "xTH~E_V&I.T)_ESH16 bt21 xFOUR_V&I.T)_LIMMU bu4 bu_A bvB xSIX_V&I.T)_ASH9 yEV[_V&I.T)_IM*3 bu_A",
  "bvB xE(_V&I.T)_USSU bu3 xN*E_V&I.T)_ILIMMU bv3 bv4 bv_A xTWO_ASH_T[U yH~E_ASH_T[U",
  "xFOUR_ASH_T[U yIVE_ASH_T[U xSIX_ASH_T[U x;E_B.2 xTWO_B.2 yH~E_B.2 xFOUR_B.2 bg_V&I.T) yIVE_B.2",
  "bg_V&I.T) xNIGIDAM* bdESH x;E_ESHE3 xTWO_ESHE3 x;E_THIR]DISH xTWO_THIRDS_DISH xFIVE<IXTHS_DISH",
  "x;E_THIR]V&I.T)_A xTWO_THIRDS_V&I.T)_A x;E_E(H_ASH bbQU&T,_ASH yL]ASSYRI._;E<IXTH boQU&T,",
  "yNE_QU&T,_GUR bbH%F_GUR xELAMITE_;E_THIRD bfTWO_THIRDS bfFORTY bgIFTY xFOUR_U_V&I.T)",
  "yIVE_U_V&I.T) xSIX_U_V&I.T) yEV[_U_V&I.T) xE(_U_V&I.T) xN*E_U_V&I.T)",
  "12470=kPUNCTUA^;<IGN_OL]ASSYRI._WOR]DIVID, bbV,^C%_COL; bbDIAG;%_COL; bkTRICOL; bkQUADCOL;",
  "12480=kSIGN_AB_^MES_NUN_T[U ySHU2 q]^MES_ESH2 pBA]^MES_DISH_T[U rH&2_^MES_AB2 bcNI bcZA",
  "qU_OV,_BU_^MES_NA2 pDA_^MES_TAK4 rG_^MES_KUR qIM_^MES_IGI zU_U_U s2_^MES_UD qUG_^MES_.SHE baSH",
  "bc_AT_+FT zD* baUN z,*2 zGA baI bbR2_GUNU bbSH zHA baI zIGI_GUNU zKASK% baUR bbSHU2",
  "bf_PLUS_KASK% zLAK-020 bbM bc_^MES_KUR baUH_PLUS_GISH zMASH baES baI zNI zPI zSHE baI_GUNU",
  "pE2_^MES_KUR yPAP qR*2_X qSH2_CROSS*G_ESH2 qZ[<HESHIG_^MES_ASH biHI biIGI_GUNU biLA bkL biME",
  "bkS biSU u^MES<U pGA2_^MES_BAH&2 zDIM_GUNU baUG_^MES_IGI_GUNU bjKASK% z,[ zGA bbR_PLUS_DI biNE",
  "zHA_PLUS_A zKUSHU2_PLUS_KASK% zLAM bc_^MES_KUR baUH zMUSH zNE bb_PLUS_E2 bhGI zSHIM zZIZ2",
  "rBA_ROTATE]N*ETY_DEG~ES qESHT*_^MES_U qISH_^MES_GISH_CROSS*G_GISH qU2_^MES_IGI_GUNU",
  "r]PLUS_GISH_^MES_TAK4 pHA_T[U_GUNU qI_^MES_ASH_OV,_HI_^MES_ASH pKA_^MES_BU yKA yU_U_U zR",
  "pLAGAB_^MES_ZU_OV,_ZU rK-003 u21 v5 u30 u50 v1 u62 u79_OV,_LAK-079_GUNU u80 v1_OV,_LAK-081 u92",
  "t130 u42 t210 v9 u20 v5 v8 u38 u65 v6 t343 v7 v8 u83 v4 u90 t441 v9 w_^MES_GU bdIGI",
  "bdPAP_PLUS_LU3 bmPAP_PLUS_LU3 bdU2_PLUS_BA u50 v7 u70 u83 u90 v2 v3 v5 t550 t608 u17",
  "w_^MES_ASH bdBAD bdDUN3_GUNU_GUNU bdKU3 bdLA bdT& beE bdU2 beD beRUDA u36 u48 w_^MES_DUB bdGA",
  "bdIGI bg_GUNU bdNI bdPAP_PLUS_PAP_PLUS_LU3 bdSHESH_PLUS_KI bdUD beRUDA t724 u49",
  "qU2_GUNU_^MES_ASH t^MES_DISH zH% zPAP bc_PLUS_PAP_PLUS_LU3 zTAK4 pMI_PLUS_ZA7",
  "qUSH_OV,_MUSH_^MES_GA bkKAK pN*DA2_^MES_DIM_GUNU bcGISH bdUL bcHI bcKESH2 bcLAK-050 bcMASH",
  "bcPAP_PLUS_PAP bcU bd_PLUS_U bdRUDA pSAG_GUNU_^MES_HA t^MES_[ zSHE_AT_+FT zTAK4 qHA6_T[U",
  "rE_OV,<HE tPLUS_HUB2 yNAM2 yS& rU2_PLUS_DUG_^MES_NI zE2_^MES_. qI_^MES_TAK4 pTAK4_PLUS<AG",
  "qUM_^MES_G.2_T[U zTH~E_DISH pUR2_*V,TED t^MES_UD rU_^MES_D&A3 zLAK-668 baU3 pZA7",
  "qU_OV,_ZU_PLUS<& r5_^MES_TH~E_DISH_T[U 12F90=bYPRO-M*O.<IGN_CM001 w2 w4 w5 w6 w7 w8 w9 v10 w1",
  "w2 xB w3 w5 w7 w9 v21 w3 w4 w5 w6 w7 w8 w9 v30 w3 w4 w5 w6 w7 w8 w9 v40 w1 w4 w6 w7 w9 v50 w1",
  "w2 w3 w4 w5 w6 w8 w9 v60 w1 w2 w3 w4 w6 w7 w8 w9 v70 w1 w2 w3 w4 w5 xB w6 w8 w9 v80 w1 w2 w3",
  "w4 w5 w6 w7 w8 w9 v90 w1 w2 w4 w5 w6 w7 w8 w9 u100 w1 w2 w3 w4 w5 w7 w8 w9 v10 w2 w4 u301 w2",
  "13000=aEGYP^._HI,OGLYPH_A001 x2 x3 x4 x5 yA x6 yA yB x7 x8 x9 w10 x1 x2 x3 x4 yA x5 x6 x7 yA",
  "x8 x9 w20 x1 x2 x3 x4 x5 x6 x7 x8 x9 w30 x1 x2 yA x3 x4 x5 x6 x7 x8 x9 w40 yA x1 x2 yA x3 yA",
  "x4 x5 yA x6 x7 x8 x9 w50 x1 x2 x3 x4 x5 x6 x7 x8 x9 w60 x1 x2 x3 x4 x5 x6 x7 x8 x9 w70 uB001",
  "x2 x3 x4 x5 yA x6 x7 x8 x9 uC001 x2 yA yB yC x3 x4 x5 x6 x7 x8 x9 w10 yA x1 x2 x3 x4 x5 x6 x7",
  "x8 x9 w20 x1 x2 x3 x4 uD001 x2 x3 x4 x5 x6 x7 x8 yA x9 w10 x1 x2 x3 x4 x5 x6 x7 x8 x9 w20 x1",
  "x2 x3 x4 x5 x6 x7 yA x8 x9 w30 x1 yA x2 x3 x4 yA x5 x6 x7 x8 x9 w40 x1 x2 x3 x4 x5 x6 yA x7 x8",
  "yA x9 w50 yA yB yC yD yE yF yG yH yI x1 x2 yA x3 x4 yA x5 x6 x7 x8 x9 w60 x1 x2 x3 x4 x5 x6 x7",
  "yA yB yC yD yE yF yG yH uE001 x2 x3 x4 x5 x6 x7 x8 yA x9 yA w10 x1 x2 x3 x4 x5 x6 yA x7 yA x8",
  "x9 w20 yA x1 x2 x3 x4 x5 x6 x7 x8 yA x9 w30 x1 x2 x3 x4 yA x6 x7 x8 uF001 yA x2 x3 x4 x5 x6 x7",
  "x8 x9 w10 x1 x2 x3 yA x4 x5 x6 x7 x8 x9 w20 x1 yA x2 x3 x4 x5 x6 x7 x8 x9 w30 x1 yA x2 x3 x4",
  "x5 x6 x7 yA x8 yA x9 w40 x1 x2 x3 x4 x5 yA x6 yA x7 yA x8 x9 w50 x1 yA yB yC x2 x3 uG001 x2 x3",
  "x4 x5 x6 yA x7 yA yB x8 x9 w10 x1 yA x2 x3 x4 x5 x6 x7 x8 x9 w20 yA x1 x2 x3 x4 x5 x6 yA x7 x8",
  "x9 w30 x1 x2 x3 x4 x5 x6 yA x7 yA x8 x9 w40 x1 x2 x3 yA x4 x5 yA x6 x7 x8 x9 w50 x1 x2 x3 x4",
  "uH001 x2 x3 x4 x5 x6 yA x7 x8 uI001 x2 x3 x4 x5 yA x6 x7 x8 x9 yA w10 yA x1 yA x2 x3 x4 x5",
  "uK001 x2 x3 x4 x5 x6 x7 x8 uL001 x2 yA x3 x4 x5 x6 yA x7 x8 uM001 yA yB x2 x3 yA x4 x5 x6 x7",
  "x8 x9 w10 yA x1 x2 yA yB yC yD yE yF yG yH x3 x4 x5 yA x6 yA x7 yA x8 x9 w20 x1 x2 yA x3 x4 yA",
  "x5 x6 x7 x8 yA x9 w30 x1 yA x2 x3 yA yB x4 x5 x6 x7 x8 x9 w40 yA x1 x2 x3 x4 uN001 x2 x3 x4 x5",
  "x6 x7 x8 x9 w10 x1 x2 x3 x4 x5 x6 x7 x8 yA yB x9 w20 x1 x2 x3 x4 x5 yA x6 x7 x8 x9 w30 x1 x2",
  "x3 yA x4 yA x5 yA x6 x7 yA x8 x9 w40 x1 x2 vL001 y2 y3 y4 y5 zA y6 y7 y8 y9 x10 y1 y2 y3 y4 y5",
  "y6 y7 zA y8 y9 x20 vU001 y2 y3 y4 y5 y6 y7 y8 y9 x10 zA y1 zA y2 y3 y4 y5 y6 y7 y8 zA y9 x20",
  "y1 y2 zA uO001 yA x2 x3 x4 x5 yA x6 yA yB yC yD yE yF x7 x8 x9 w10 yA yB yC x1 x2 x3 x4 x5 x6",
  "x7 x8 x9 yA w20 yA x1 x2 x3 x4 yA x5 yA x6 x7 x8 x9 yA w30 yA x1 x2 x3 yA x4 x5 x6 yA yB yC yD",
  "x7 x8 x9 w40 x1 x2 x3 x4 x5 x6 x7 x8 x9 w50 yA yB x1 uP001 yA x2 x3 yA x4 x5 x6 x7 x8 x9 w10",
  "x1 uQ001 x2 x3 x4 x5 x6 x7 uR001 x2 yA x3 yA yB x4 x5 x6 x7 x8 x9 w10 yA x1 x2 x3 x4 x5 x6 yA",
  "x7 x8 x9 w20 x1 x2 x3 x4 x5 x6 x7 x8 x9 uS001 x2 yA x3 x4 x5 x6 yA x7 x8 x9 w10 x1 x2 x3 x4 yA",
  "yB x5 x6 x7 yA x8 x9 w20 x1 x2 x3 x4 x5 x6 yA yB x7 x8 x9 w30 x1 x2 x3 x4 x5 yA x6 x7 x8 x9",
  "w40 x1 x2 x3 x4 x5 x6 uT001 x2 x3 yA x4 x5 x6 x7 yA x8 yA x9 yA w10 x1 yA x2 x3 x4 x5 x6 yA x7",
  "x8 x9 w20 x1 x2 x3 x4 x5 x6 x7 x8 x9 w30 x1 x2 yA x3 yA x4 x5 x6 uU001 x2 x3 x4 x5 x6 yA yB x7",
  "x8 x9 w10 x1 x2 x3 x4 x5 x6 x7 x8 x9 w20 x1 x2 x3 yA x4 x5 x6 x7 x8 x9 yA w30 x1 x2 yA x3 x4",
  "x5 x6 x7 x8 x9 w40 x1 x2 uV001 yA yB yC yD yE yF yG yH yI x2 yA x3 x4 x5 x6 x7 yA yB x8 x9 w10",
  "x1 yA yB yC x2 yA yB x3 x4 x5 x6 x7 x8 x9 w20 yA yB yC yD yE yF yG yH yI yJ yK yL x1 x2 x3 yA",
  "x4 x5 x6 x7 x8 yA x9 yA w30 yA x1 yA x2 x3 yA x4 x5 x6 x7 yA x8 x9 w40 yA uW001 x2 x3 yA x4 x5",
  "x6 x7 x8 x9 yA w10 yA x1 x2 x3 x4 yA x5 x6 x7 yA x8 yA x9 w20 x1 x2 x3 x4 yA x5 uX001 x2 x3 x4",
  "yA yB x5 x6 yA x7 x8 yA uY001 yA x2 x3 x4 x5 x6 x7 x8 uZ001 x2 yA yB yC yD x3 yA yB x4 yA x5",
  "yA x6 x7 x8 x9 w10 x1 x2 x3 x4 x5 yA yB yC yD yE yF yG yH yI x6 yA yB yC yD yE yF yG yH uAA001",
  "y2 y3 y4 y5 y6 y7 zA zB y8 y9 x10 y1 y2 y3 y4 y5 y6 y7 y8 y9 x20 y1 y2 y3 y4 y5 y6 y7 y8 y9",
  "x30 y1 y2 13430=uV,^C%_JO*, uHORIZ;T%_JO*, u*S,T_AT_TOP<T&T beBOTTOM<T&T beTOP_[D beBOTTOM_[D",
  "uOV,LAY_MIDD+ uBEG*<EGM[T u[D<EGM[T 14400=a.ATOLI._HI,OGLYPH_A001 y2 y3 y4 y5 y6 y7 y8 y9 x10",
  "zA y1 y2 y3 y4 y5 y6 y7 y8 y9 x20 y1 y2 y3 y4 y5 y6 zA y7 y8 y9 x30 y1 y2 y3 y4 y5 y6 y7 y8 y9",
  "zA x40 y1 zA y2 y3 y4 y5 zA y6 zA zB y7 y8 y9 x50 y1 y2 y3 y4 y5 y6 y7 y8 y9 x60 y1 y2 y3 y4",
  "y5 y6 zA zB zC y7 y8 y9 x70 y1 y2 y3 y4 y5 y6 y7 y8 y9 x80 y1 y2 y3 y4 y5 y6 y7 y8 y9 x90 y1",
  "y2 y3 y4 y5 y6 y7 zA y8 zA y9 w100 zA y1 zA y2 zA y3 y4 zA zB zC y5 zA zB y6 y7 zA zB zC y8 y9",
  "x10 zA zB y1 y2 y3 y4 y5 zA y6 y7 y8 y9 x20 y1 y2 y3 y4 y5 zA y6 y7 y8 y9 x30 y1 y2 y3 y4 y5",
  "zA y6 y7 y8 y9 x40 y1 y2 y3 y4 y5 y6 y7 y8 y9 x50 y1 y2 y3 y4 y5 y6 y7 y8 y9 x60 y1 y2 y3 y4",
  "y5 y6 y7 y8 y9 x70 y1 y2 y3 y4 y5 y6 y7 y8 y9 x80 y1 y2 y3 y4 y5 y6 y7 y8 y9 x90 y1 y2 y3 y4",
  "y5 y6 y7 y8 y9 w200 y1 y2 zA zB y3 y4 y5 y6 y7 zA y8 y9 zA x10 y1 y2 y3 y4 y5 zA y6 zA y7 y8",
  "y9 x20 y1 y2 y3 y4 y5 y6 y7 zA y8 y9 x30 y1 y2 y3 y4 y5 y6 y7 y8 y9 x40 y1 y2 y3 y4 y5 y6 y7",
  "y8 y9 x50 y1 y2 y3 y4 y5 y6 y7 y8 y9 x60 y1 y2 y3 y4 y5 y6 y7 zA y8 y9 x70 y1 y2 y3 y4 y5 y6",
  "y7 y8 y9 x80 y1 y2 y3 y4 y5 y6 y7 y8 y9 zA x90 y1 y2 y3 y4 zA y5 y6 y7 y8 y9 zA w300 y1 y2 y3",
  "y4 y5 y6 y7 y8 y9 zA x10 y1 y2 y3 y4 y5 y6 y7 y8 y9 x20 y1 y2 y3 y4 y5 y6 y7 y8 y9 zA x30 y1",
  "y2A zB zC y3 y4 y5 y6 zA zB zC y7 y8 y9 x40 y1 y2 y3 y4 y5 y6 y7 y8 y9 x50 y1 y2 y3 y4 y5 y6",
  "y7 y8 y9 zA x60 y1 y2 y3 y4 zA y5 y6 y7 y8 zA y9 x70 y1 zA y2 y3 y4 y5 y6 y7 y8 y9 x80 y1 zA",
  "y2 y3_RA_OR_RI zA y4 y5 y6 zA y7 y8 y9 x90 y1 y2 y3_E( y4 y5 y6 y7 y8 y9 w400 y1 y2 y3 y4 y5",
  "y6 y7 y8 y9 x10_BEG*_LOGOGRAM_M&K zA_[]LOGOGRAM_M&K y1 y2 y3 y4 y5 y6 y7 y8 y9 x20 y1 y2 y3 y4",
  "y5 y6 y7 y8 y9 x30 y1 y2 y3 y4 y5 y6 y7 y8 y9 x40 y1 y2 y3 y4 y5 y6 y7 y8 y9 x50 zA y1 y2 y3",
  "y4 y5 y6 y7 zA y8 y9 x60 y1 y2 y3 y4 y5 y6 y7 y8 y9 x70 y1 y2 y3 y4 y5 y6 y7 y8 y9 x80 y1 y2",
  "y3 y4 y5 y6 y7 y8 y9 x90 y1 y2 y3 y4 y5 y6 y7 w501 y2 y3 y4 y5 y6 y7 y8 y9 x10 y1 y2 y3 y4 y5",
  "y6 y7 y8 y9 x20 y1 y2 y3 y4 y5 y6 y7 y8 y9 x30 16800=aBAMUM_+TT,_PHASE-A_NGKUE_MF; vGBIEE_F;",
  "vP;_MF;_PIPAEMGBIEE bkBA vNAA_MF; vSHU[SHUET v^TA_MF; vNZA_MF; vSH*DA_PA_NJI",
  "vP;_PA_NJI_PIPAEMGBIEE bmBA vMAEMBGBIEE vTU_MAEMBA vNG.GU vMAEMVEUX xNSUAE wVEUA[GAM vSEUNYAM",
  "vNTOQP[ vKEUKEUTNDA vNK*DI vSUU vNGKU[ZEUM vLAPAQ wET_KUT vNTAP_MFAA vMAEKEUP vPASHAE",
  "vGHEUA,AE vPAMSHAE vM;_NGGEUAET vNZUN_MEUT vU_YUQ_NAE vGHEUAEGHEUAE vNTAP_NTAA vSISA vMGBASA",
  "wEUNJOMNDEUQ wOOMPUQ vKAFA vPA_+,AEWA vNDA_+,AEWA vPET vMAEMKP[ vNIKA vPUP vTUAEP vLUAEP",
  "vS;JAM vTEUTEUW[ vMA[YI vKET vNDA.GGEUAET vKUOQ vMOOMEUT vSHUM vLOMMAE vFIRI vROM vKPOQ vSOQ",
  "vMAP_PIEET vSHIRAE vNTAP vSHOQ_NSHUT_YUM vNYIT_M;GKEUAEQ vPA&AE vNKA&AE vUNKNOWN vNGG[ vMAESI",
  "vNJAM vMB.YI vNYET vTEUA[ vSOT vPAAM vNSHIEE vMAEM vNYI vKAQ vNSHA vVEE vLU vN[ wAQ vMBAQ",
  "tB_NSHUET vTU_MAEMGBIEE vSIEE wET_TU vLOM_NTEUM vMBA_MAE+E vKIEEM vYEURAE vMBA&AE vKAM vPEESHI",
  "vYAFU_+,AEWA vLAM_NSHUT_NYAM vN^EE<HEUOQ wDU_NJAA vGHEUGHEUAEM vPIT vTU_NSIEE vSHET_NJAQ",
  "yUAEQTU vMF;_TEUAEQ wBIT_MBAAKET vNYI_NTEUM vKEUPUQ vGHEUGH[ vKEUYEUX vLA.AE vP&UM vVEUM",
  "vNGK*DI_MVOP xGEU_MBU vWUAET vSAKEUAE vTAAM vMEUQ vNGGUOQ bb_L&GE vMFIYAQ vSUE vMBEURI w;^E[",
  "vNYAEMAE vPUNGAAM vMEUT_NGGEET vFEUX vMBUOQ vFEE vKEUAEM vMA_NJEUA[A baUQA v+T vNGGAAM wS[ vMA",
  "vKIQ vNGOM tC_NGKUE_MAEMBA wZA vYUM vW.GKUOQ vNGG[ wDEUA,EE wGKAQ vGH&AE vMBEEKEET vGBAYI",
  "vNYIR_MKP&AQ_MEUN wTU_MBIT vMBEUM vPIRIE[ vNDOMBU vMBAA_CABBAGE-T~E vKEUSHEUAEP vGHAP vKEUKAQ",
  "vYU_MUOMAE vNZEUM vMBUE vNSEUA[ vMBIT vYEUQ vKP&AQ wAA vSEUX vNDIDA vTAASHAE vNJUEQ v^TA_YUE",
  "vSUAET vNGGUA[_NYAM vVEUX vN.S.AQ vMA_KEUA,I vNTAA wGGU; vLAP vMBIRIE[ wGBASAQ vNTEUNGBA",
  "vTEUTEUX vNGGUM vFUE vNDEUT wSA xHAQ vBUNG vVEUAEP[ vMB,AE vRU vNJAEM vLAM v^TUAEP vNSUOT_NGOM",
  "wJEEEE vKET vNGGU vMAESI wBUAEM vLU vKUT vNJAM wGOM vWUP vNGGUEET wSOM wT[ vKUOP_NKA&AE vNSUN",
  "wDAM vMA_NSIEE vYAA vNDAP vSHUEQ wETF; vMBI wAEMBA wB.YI vKEUSEUX vMBEUX vKEUM vMBAA_PICKET",
  "vYUWOQ vNJEUX vMIEE wUAE vSHIQ vK[_LAW zFA^GUE vNGAQ wAQ vLIQ vP* w[ vTET t]MBUO vWAP vNJI",
  "vMF; vNJIEE vLIEE vNJEUT wSHEE wGGAAMAE wYAM vWUA[ vNGKUN vSHEE vNGKAP vKEUAETMEUN vTEUT",
  "vSHEUAE vNJAP vSUE vKET vYAEMMAE vKUOM vSAP vMFEUT vNDEUX vM%E,I wEUT vSEUAEQ vY[ vNJEUAEM",
  "vKEUOT_MBUAE vNGKEURI vTU vGHAA vNGKYEE vFEUFEUAET vNDEE vMGBOFUM v+UAEP vND; vM;I wGBEUN",
  "vPUUT vMGBIEE wFO vLUM vNSIEEP vMBAA vKWAET vNYET vTEUA[ vSOT vYUWOQ vKEUM vRAEM vTEEEE",
  "vNGKEUAEQ vMFEUAE vNSIEET vKEUP vPIP wEUTAE vNYUE v+T vNGGAAM vMFIEE vNGGWA[ vYUOM vPAP vYUOP",
  "vNDAM wTEUM vSUAE vKUN vNGGEUX xKIEE vTUOT vMEUN vKUQ vNSUM vTEUN vMA[JET vNGGAP v+UM vNGGUOM",
  "wSHUT wJUEQ vGHEUAE vKU vR[_OLD vTAE wOQ vNYI vRII v+EEE vMEEEE w vSUU vMU vSHII xEUX vKYEE",
  "vNU vSHU vNTEE vPEE vNI vSHOQ vPUQ vMVOP vLOQ vR[_MUCH v^ vNTUU vMBAA<EV[ vSAQ vFAA tE_NDAP",
  "vTO; vMBEUM vLAP vVOM vLO; vPAA vSOM vRAQ vNSHUOP wDUN vPUAE vTAM vNGKA vKPEUX vWUO vSEE",
  "vNGGEUAET vPAAM vTOO vKUOP vLOM vNSHIEE wGOP vMAEM vNGKEUX xOQ wSHUE vRIMGBA vNJEUX vPEEM vSAA",
  "vNGGURAE vMGBA vGHEUX vNGKEUAEM wJAEMLI vMAP vLOOT vNGGEEEE wDIQ vTA[_NTEUM vSET vPUM",
  "vNDAA<OFTNESS wGGUAESHAE_NYAM vYIEE vGHEUN vTUAE vYEUAE vPO vTUMAE vKEUAE vSUA[ vTEUAEQ vVEUAE",
  "vWEUX vLAAM vPU vTAAQ vGHAAMAE vNGEU~UT vSHEUAEQ vMGB[ wBEE vNZAQ wKOM vGBET vTUM vKUET vYAP",
  "vNYI_C+AV, vYIT vMFEUQ vNDIAQ vPIEEQ vYUEQ v+UAEM vFUE vGBEUX vNGKUP vKET vMAE vNGKAAMI vGHET",
  "vFA vNTUM vPEUT vYEUM vNGGEUAE wYI_BETWE[ wZUQ vPO; vMIEE vFUET vNAE vMUAE vGHEUAE vFU_I vMVI",
  "vPUAQ vNGKUM vKUT vPIET vNTAP vYEUAET vNGGUP vPA_PEOP+ vFU_C%L wOM vNJEE vA vTOQ vO vI vLAQ",
  "vPA_PLUR% vTAA xQ vNDAA_MY_HOUSE vSHIQ vYEUX vNGUAE vYUA[ wOQ<WIMM*G zCOV, wUQ xN vKEUX vPEUX",
  "vNJEE_EPOCH vPUE vWUE vFEE vVEE vLU vMI v~UX wAE vNGUAET xA vSHO yQ vFU_~MEDY vNA vPI vLOQ vKO",
  "vM[ wA xQ vTEU vKI vM; vT[ vFAQ vGHOM tF_KA vU vKU vEE v~E vTAE vNYI vLA vRII xEE vMEEEE vTAA",
  "vNDAA wJAEM vM vSUU wHII wI wEUX vKYEE wET vNUAE x wJUAE vYOQ vSHU vYA vNSHA vPEUX vNTEE vWUE",
  "vPEE vRU vNI v~UX vK[ vNGKWA[ xGA vSHO vPUAE vFOM vWA vLI wOQ vKO vMB[ vR[ vMA wO wBAA vTET",
  "vKPA vSAMBA vVUEQ 16A40=aMRO_+TT,_TA lNGI lYO lMIM lBA lDA lA lPHI lKHAI lHAO lDAI lCHU lKEAAE",
  "lOL lMAEM lN* lPA lOO m lRO lSHI lTHEA lEA lWA lE lKO lL. n lHAI lRI lTEK 16A60=eDIGIT_Z,O k;E",
  "kTWO lH~E kFOUR lIVE kSIX lEV[ kE( kN*E 16A6E=f.DA fOUB+_D.DA aT.GSA_+TT,_OZ pC pQ pX oAZ pC",
  "pQ pX oVZ pC pQ pX oEZ pC pQ pX oIZ pC pQ pX oUZ pC pQ pX oAWZ qC qQ qX oUIZ qC qQ qX oF*%_NG",
  "oL;G_UEX oSHORT_UEZ uAWX oUEC qZ qQ qX pIUZ rC rQ rX oMZ pC pQ pX oKA pHA oGA oNGA oSA oYA oWA",
  "oPA oNYA oPHA oBA oMA oNA oHA oLA oHTA oTA oDA oRA oNHA oSHA oCA oTSA oGHA oHTTA oTHA oXA oFA",
  "oDHA oCHA oZA 16AC0=hDIGIT_Z,O n;E nTWO oH~E nFOUR oIVE nSIX oEV[ nE( nN*E",
  "16AD0=aBASSA_VAH_+TT,_[NI rKA rSE rFA rMBE rYIE rGAH rDHII rKPAH rJO rHWAH rWA rZO rGBU rDO",
  "rCE rUWU rTO rBA rVU rYE* rPA rWADDA rA rO sO rU rEE s rI 16AF0=kCOMB**G_HIGH_T;E uLOW_T;E",
  "uMI]T;E uLOW-MI]T;E uHIGH-LOW_T;E kFULL<TOP 16B00=aPAHAWH_HM;G_VOWEL_KEEB wV uIB vV uAUB wV",
  "uUB vV uEB vV uAIB wV uOOB wV uAWB wV uUAB wV uOB vV uIAB wV uAB vV uWB vV uAAB wV nC;S;.T_VAU",
  "xNTSAU xLAU xHAU xNLAU xRAU xNKAU xQHAU xYAU xHLAU xMAU xCHAU xNCHAU xHNAU xPLHAU xNTHAU yAU",
  "xAU xXAU xCAU nM&K_CIM_TUB wSO wKES xHAV wSUAM wHOM wTAUM nSIGN_VOS_THOM xSHAB_CEEB sCIM_CHEEM",
  "sVOS_THIAB wFEEM sXYEEM_NTXIV yRHO yTOV yFAIB sVOS<EEV sMEEJ<UAB sVOS_NRUA sIB_YAM sXAUS",
  "sCIM_TSOV_ROG 16B50=nDIGIT_Z,O t;E tTWO uH~E tFOUR uIVE tSIX uEV[ tE( tN*E 16B5B=nNUMB,_T[S",
  "uHUND~DS uT[_THOUS.DS uMILLI;S uHUND~]MILLI;S uT[_BILLI;S vRILLI;S 16B63=nSIGN_VOS_LUB sXYOO",
  "sHLI sTHIRD-STAGE_HLI sZWJ_THAJ sHNUB sNQIG sXIAB sNTUJ sAV sTXHEEJ_CEEV sMEEJ_TSEEB sTAU sLOS",
  "sMUS sCIM_HAIS_LUS_NTOG_NTOG wCUAM_TSHOOJ wTXWV ba_CHWV wPUB_DAWB wN~S_TOS",
  "16B7D=nCL.<IGN_TSHEEJ xYEEG xLIS yAUJ xXYOOJ xKOO xHAWJ xMUAS xTHOJ ySAB xPHAB xKHAB xHAM xVAJ",
  "xFAJ xYAJ xTSWB xKWM xVWJ 16E40=aMEDEFAIDR*_$M bbS bbV bbW bbA^U bbZ bbKP bbP bbT bbG bbF bbI",
  "bbK bbA bbJ bbE bbB bbC bbU bbYU bbL bbQ bbHP bbNY bbX bbD bbOE bbN bbR bbO bbAI bbY m@M zS zV",
  "zW zA^U zZ zKP zP zT zG zF zI zK zA zJ zE zB zC zU zYU zL zQ zHP zNY zX zD zOE zN zR zO zAI zY",
  "mDIGIT_Z,O s;E sTWO tH~E sFOUR tIVE sSIX tEV[ sE( sN*E mNUMB,_T[ tE+V[ tTWELVE uHIRTE[",
  "tFOURTE[ uIFTE[ tSIXTE[ uEV[TE[ tE(E[ tN*ETE[ mDIGIT_;E_%T,NATE) sTWO_%T,NATE) tH~E_%T,NATE)",
  "mCOMMA mFULL<TOP mSYMBOL_AIVA mEXCLAMA^;_OH 16F00=bIAO_+TT,_PA mBA mYI_PA mPLA mMA nHA",
  "m&CHAIC_MA mFA mVA nFA mTA mDA mYI_TTA qA mTTA mDDA mNA nHA mYI_NNA m&CHAIC_NA mNNA oHA mLA",
  "nYA nHA oYA mTLHA mDLHA mTLHYA mDLHYA mKA mGA mYI_KA mQA nGA mNGA oHA m&CHAIC_NGA mHA mXA mGHA",
  "oHA mTSSA mDZZA mNYA oHA mTSHA mDZHA mYI_TSHA pDZHA m~FORME]TSHA mSHA nSA mZHA nSHA mTSA mDZA",
  "mYI_TSA mSA mZA nSA nZA oSA m&CHAIC_ZZA mZZYA oSYA mWA mAH mHHA mBRI mSYI mDZYI mTE nSE mRTE",
  "16F4F=fSIGN_C;S;.T_MODIFI,_B& f+TT,_NAS%IZA^; fSIGN_ASPIRA^; k~FORME]VOIC*G tASPIRA^;",
  "fVOWEL<IGN_A rA rHH rN sG qO rO qWO r qE rN sG qOEY qI rA sN tG rO rE rI rU rNG qU rA sN tG rU",
  "rEI rNG qY rI qAE sE q,R qROUNDE],R q, qROUNDE], qAI qEI qAU qOU qN rG qUOG qYUI qOG r, qVW",
  "qIG qEA qI;G qUI 16F8F=fT;E_R( kTOP_R( kABOVE kBELOW f+TT,_T;E-2 r3 r4 r5 r6 r7 r8",
  "m~FORME]T;E-1 ba2 ba4 ba5 ba6 ba8 16FE0=aT.GUT_IT,A^;_M&K aNUSHU_IT,A^;_M&K",
  "aOL]CH*ESE_HOOK_M&K mIT,A^;_M&K aKHIT.<M%L<CRIPT_FIL+R 16FF0=aVIETNAMESE_%T,NATE_~AD*G_M&K_CA",
  "biNHAY 18800=aT.GUT_COMP;[T-001 t2 t3 t4 t5 t6 t7 t8 t9 s10 t1 t2 t3 t4 t5 t6 t7 t8 t9 s20 t1",
  "t2 t3 t4 t5 t6 t7 t8 t9 s30 t1 t2 t3 t4 t5 t6 t7 t8 t9 s40 t1 t2 t3 t4 t5 t6 t7 t8 t9 s50 t1",
  "t2 t3 t4 t5 t6 t7 t8 t9 s60 t1 t2 t3 t4 t5 t6 t7 t8 t9 s70 t1 t2 t3 t4 t5 t6 t7 t8 t9 s80 t1",
  "t2 t3 t4 t5 t6 t7 t8 t9 s90 t1 t2 t3 t4 t5 t6 t7 t8 t9 r100 t1 t2 t3 t4 t5 t6 t7 t8 t9 s10 t1",
  "t2 t3 t4 t5 t6 t7 t8 t9 s20 t1 t2 t3 t4 t5 t6 t7 t8 t9 s30 t1 t2 t3 t4 t5 t6 t7 t8 t9 s40 t1",
  "t2 t3 t4 t5 t6 t7 t8 t9 s50 t1 t2 t3 t4 t5 t6 t7 t8 t9 s60 t1 t2 t3 t4 t5 t6 t7 t8 t9 s70 t1",
  "t2 t3 t4 t5 t6 t7 t8 t9 s80 t1 t2 t3 t4 t5 t6 t7 t8 t9 s90 t1 t2 t3 t4 t5 t6 t7 t8 t9 r200 t1",
  "t2 t3 t4 t5 t6 t7 t8 t9 s10 t1 t2 t3 t4 t5 t6 t7 t8 t9 s20 t1 t2 t3 t4 t5 t6 t7 t8 t9 s30 t1",
  "t2 t3 t4 t5 t6 t7 t8 t9 s40 t1 t2 t3 t4 t5 t6 t7 t8 t9 s50 t1 t2 t3 t4 t5 t6 t7 t8 t9 s60 t1",
  "t2 t3 t4 t5 t6 t7 t8 t9 s70 t1 t2 t3 t4 t5 t6 t7 t8 t9 s80 t1 t2 t3 t4 t5 t6 t7 t8 t9 s90 t1",
  "t2 t3 t4 t5 t6 t7 t8 t9 r300 t1 t2 t3 t4 t5 t6 t7 t8 t9 s10 t1 t2 t3 t4 t5 t6 t7 t8 t9 s20 t1",
  "t2 t3 t4 t5 t6 t7 t8 t9 s30 t1 t2 t3 t4 t5 t6 t7 t8 t9 s40 t1 t2 t3 t4 t5 t6 t7 t8 t9 s50 t1",
  "t2 t3 t4 t5 t6 t7 t8 t9 s60 t1 t2 t3 t4 t5 t6 t7 t8 t9 s70 t1 t2 t3 t4 t5 t6 t7 t8 t9 s80 t1",
  "t2 t3 t4 t5 t6 t7 t8 t9 s90 t1 t2 t3 t4 t5 t6 t7 t8 t9 r400 t1 t2 t3 t4 t5 t6 t7 t8 t9 s10 t1",
  "t2 t3 t4 t5 t6 t7 t8 t9 s20 t1 t2 t3 t4 t5 t6 t7 t8 t9 s30 t1 t2 t3 t4 t5 t6 t7 t8 t9 s40 t1",
  "t2 t3 t4 t5 t6 t7 t8 t9 s50 t1 t2 t3 t4 t5 t6 t7 t8 t9 s60 t1 t2 t3 t4 t5 t6 t7 t8 t9 s70 t1",
  "t2 t3 t4 t5 t6 t7 t8 t9 s80 t1 t2 t3 t4 t5 t6 t7 t8 t9 s90 t1 t2 t3 t4 t5 t6 t7 t8 t9 r500 t1",
  "t2 t3 t4 t5 t6 t7 t8 t9 s10 t1 t2 t3 t4 t5 t6 t7 t8 t9 s20 t1 t2 t3 t4 t5 t6 t7 t8 t9 s30 t1"]

/-- Names from code point 18A13 on. -/
def namesFrom18A13 : List String := [
  "t2 t3 t4 t5 t6 t7 t8 t9 s40 t1 t2 t3 t4 t5 t6 t7 t8 t9 s50 t1 t2 t3 t4 t5 t6 t7 t8 t9 s60 t1",
  "t2 t3 t4 t5 t6 t7 t8 t9 s70 t1 t2 t3 t4 t5 t6 t7 t8 t9 s80 t1 t2 t3 t4 t5 t6 t7 t8 t9 s90 t1",
  "t2 t3 t4 t5 t6 t7 t8 t9 r600 t1 t2 t3 t4 t5 t6 t7 t8 t9 s10 t1 t2 t3 t4 t5 t6 t7 t8 t9 s20 t1",
  "t2 t3 t4 t5 t6 t7 t8 t9 s30 t1 t2 t3 t4 t5 t6 t7 t8 t9 s40 t1 t2 t3 t4 t5 t6 t7 t8 t9 s50 t1",
  "t2 t3 t4 t5 t6 t7 t8 t9 s60 t1 t2 t3 t4 t5 t6 t7 t8 t9 s70 t1 t2 t3 t4 t5 t6 t7 t8 t9 s80 t1",
  "t2 t3 t4 t5 t6 t7 t8 t9 s90 t1 t2 t3 t4 t5 t6 t7 t8 t9 r700 t1 t2 t3 t4 t5 t6 t7 t8 t9 s10 t1",
  "t2 t3 t4 t5 t6 t7 t8 t9 s20 t1 t2 t3 t4 t5 t6 t7 t8 t9 s30 t1 t2 t3 t4 t5 t6 t7 t8 t9 s40 t1",
  "t2 t3 t4 t5 t6 t7 t8 t9 s50 t1 t2 t3 t4 t5 t6 t7 t8 t9 s60 t1 t2 t3 t4 t5 t6 t7 t8",
  "1AFF0=aKATAK.A_+TT,_M*N._T;E-2 bc3 bc4 bc5 1AFF5=bc7 bc8 xNAS%IZE]T;E-1 bm2 bm3 bm4 bm5",
  "1AFFD=bm7 bm8 1B000=q&CHAIC_E aHIRAG.A_+TT,_&CHAIC_YE b[TAIG.A_+TT,_A-1 u2 u3 uWO sI-1 u2 u3",
  "u4 sU-1 u2 u3 u4 u5 sE-2 u3 u4 u5 u6 sO-1 u2 u3 sKA-1 v2 v3 v4 v5 v6 v7 v8 v9 v10 w1 vKE tI-1",
  "v2 v3 v4 v5 v6 v7 v8 tU-1 v2 v3 v4 v5 v6 v7 tE-1 v2 v3 v4 v5 v6 tO-1 v2 v3 vKI sSA-1 v2 v3 v4",
  "v5 v6 v7 v8 tI-1 v2 v3 v4 v5 v6 tU-1 v2 v3 v4 v5 v6 v7 v8 tE-1 v2 v3 v4 v5 tO-1 v2 v3 v4 v5 v6",
  "v7 sTA-1 v2 v3 v4 tI-1 v2 v3 v4 v5 v6 v7 tU-1 v2 v3 v4 vTO tE-1 v2 v3 v4 v5 v6 v7 v8 v9 tO-1",
  "v2 v3 v4 v5 v6 vRA sNA-1 v2 v3 v4 v5 v6 v7 v8 v9 tI-1 v2 v3 v4 v5 v6 v7 vTE tU-1 v2 v3 tE-1 v2",
  "v3 v4 v5 v6 vKO tO-1 v2 v3 v4 v5 sHA-1 v2 v3 v4 v5 v6 v7 v8 v9 v10 w1 tI-1 v2 v3 v4 v5 v6 v7",
  "tU-1 v2 v3 tE-1 v2 v3 v4 v5 v6 v7 tO-1 v2 v3 v4 v5 v6 v7 v8 sMA-1 v2 v3 v4 v5 v6 v7 tI-1 v2 v3",
  "v4 v5 v6 v7 tU-1 v2 v3 v4 tE-1 v2 vMA tO-1 v2 v3 v4 v5 v6 sYA-1 v2 v3 v4 v5 vYO tU-1 v2 v3 v4",
  "tO-1 v2 v3 v4 v5 v6 sRA-1 v2 v3 v4 tI-1 v2 v3 v4 v5 v6 v7 tU-1 v2 v3 v4 v5 v6 tE-1 v2 v3 v4",
  "tO-1 v2 v3 v4 v5 v6 sWA-1 v2 v3 v4 v5 tI-1 v2 v3 v4 v5 tE-1 v2 v3 v4 tO-1 v2 v3 v4 v5 v6 v7",
  "sN-MU-MO-1 ba2 bIRAG.A_+TT,_&CHAIC_WU aKATAK.A_+TT,_&CHAIC_YI zE yWU",
  "1B150=aHIRAG.A_+TT,<M%L_WI xE xO 1B164=aKATAK.A_+TT,<M%L_WI xE xO wN 1BC00=aDUPLOY._+TT,_H qX",
  "qP qT qF qK qL qB qD qV qG qR qP_N qD< qF_N qK_M qR< qTH qSLO._DH qDH qKK qSLO._J qHL qLH qRH",
  "qM qN qJ qS qM_N qN_M qJ_M qS_J qM#DOT qN#DOT qJ#DOT baS_*SIDE_.D? qS#DOT ba_BELOW qM< qN< qJ<",
  "qS< qM_N< qN_M< qJ_M< qS_J< qJ<#DOT sN t< qS_T t_R sP t_R qT< sR< qW rH r_R qS_N sM qK_R<",
  "qG_R< qS_K t_R qA qSLO._OW qOA r qAOU qI qE qIE qSHORT_I qUI qEE qSLO._EH qROM.I._I qSLO._EE",
  "qL;G_I qYE qU qEU qXW qU_N qL;G_U qROM.I._U qUH qSLO._U qOOH rW rU qWA rO rI rEI rOW qNAS%_U",
  "wO wI wA qP,N*_. yM qSLO._[ w. w; qVOC%IC_M 1BC70=jAFFIX_+FT_HORIZ;T%<EC.T pMI]HORIZ;T%<EC.T",
  "pR(_HORIZ;T%<EC.T pLOW_V,^C%<EC.T pMI]V,^C%<EC.T pHIGH_V,^C%<EC.T pATTACHED<EC.T",
  "y+FT-TO-R(<EC.T yT.G[T baIL yE_HOOK yI_HOOK yT.G[T_HOOK 1BC80=pHIGH_ACUTE uT(_ACUTE uGRAVE",
  "uL;G_GRAVE uDOT uCIRC+ uL*E uWAVE uV,^C% 1BC90=pLOW_ACUTE tT(_ACUTE tGRAVE tL;G_GRAVE tDOT",
  "tCIRC+ tL*E tWAVE tV,^C% t&ROW 1BC9C=jSIGN_O#CROSS jTHICK_+TT,<E+CTOR jDOUB+_M&K",
  "jPUNCTUA^;_CH*OOK_FULL<TOP aSHORTH.D)AT_+TT,_OV,LAP rC;T*U*G_OV,LAP rDOWN<TEP rUP<TEP",
  "1CF00=aZNAM[NY_COMB**G_M&K_GORAZDO_NIZKO<_KRYZHEM_;_+FT yNIZKO<_KRYZHEM_;_+FT yTSATA_;_+FT",
  "yGORAZDO_NIZKO_;_+FT yNIZKO_;_+FT yS~DNE_;_+FT yM%O_POVYSHE_;_+FT yPOVYSHE_;_+FT yVYSOKO_;_+FT",
  "yM%O_POVYSHE<_KHOKHLOM_;_+FT yPOVYSHE<_KHOKHLOM_;_+FT yVYSOKO<_KHOKHLOM_;_+FT",
  "yGORAZDO_NIZKO<_KRYZHEM_;_R( yNIZKO<_KRYZHEM_;_R( yTSATA_;_R( yGORAZDO_NIZKO_;_R( yNIZKO_;_R(",
  "yS~DNE_;_R( yM%O_POVYSHE_;_R( yPOVYSHE_;_R( yVYSOKO_;_R( yM%O_POVYSHE<_KHOKHLOM_;_R(",
  "yPOVYSHE<_KHOKHLOM_;_R( yVYSOKO<_KHOKHLOM_;_R( yTSATA<_KRYZHEM yM%O_POVYSHE<_KRYZHEM",
  "ySTR.NO_M%O_POVYSHE yPOVYSHE<_KRYZHEM bhTR.NO yVYSOKO<_KRYZHEM yM%O_POVYSHE<TR.NO",
  "yGORAZDO_VYSOKO yZELO y; yRAVNO y^KHAYA yBORZAYA yUD&KA yPODV,TKA yLOMKA yKUPNAYA zACHKA",
  "yZEVOK ySKOBA yRAZSEKA yKRYZH_;_+FT 1CF30=tT;%_R.GE_M&K_MRACHNO bkSVETLO bkT~SVETLO",
  "tM&K_ZAD,ZHKA yDEMESTV[NY_ZAD,ZHKA yOTSECHKA yPODCHASHIE bi#V,^C%<TROKE yCHASHKA bf_POLNAYA",
  "yOBLACHKO ySOROCHYA_NOZHKA yTOCHKA yDVOETOCHIE tATTACH*G_V,^C%_OMET tM&K_CURVE]OMET yKRYZH",
  "tLOW,_T;%_R.GE_*DICATOR jPRIZNAK_MODIFI,_+VEL-2 bg3 baDI~C^;_FLIP baKRYZH baROG",
  "1CF50=jNEUME_KRYUK u_^KHY pP&AKLIT pDVA_V_CHELNU pKLYUCH pZ.OZHEK pSTOPITSA x<_OCHKOM",
  "pP,EVODKA y_NEPOSTOY.NAYA pSTOPITSA#SOROCHYA_NOZHKA pCHELYUSTKA pP%KA pZAPYATAYA",
  "pGOLUBCHIK_BORZY z^KHY zMRACHNY zSVETLY zT~SVETLY pVRAKHIYA_PROSTAYA yMRACHNAYA ySVETLAYA",
  "yT~SVETLAYA yKLYUCHEVAYA_PROSTAYA bkMRACHNAYA bkSVETLAYA bkT~SVETLAYA pDOUB+_ZAPYATAYA",
  "p~V,SE]CHELYUSTKA pD,BITSA pKHAMILO pCHASHKA pPODCHASHIE pSKAMEYTSA_MRACHNAYA zSVETLAYA",
  "zT~SVETLAYA baIKHAYA pDEMESTV[NY_KLYUCH pSKAMEYTSA_KLYUCHEVAYA<VETLAYA bgNEPOSTOY.NAYA",
  "bgVAYA_^KHAYA zDVOECHELNAYA_PROSTAYA bmSVETLAYA bmNEPOSTOY.NAYA bmKLYUCHEVAYA qLOZHI^E",
  "y<_ZAPYATOY zZAKRYTOE zS_KRYZHEM pKRYZH pROG pFITA pKOBYLA pZMEYTSA pSTATYA v<_ZAPYATOY",
  "yKRYZHEM yZAPYATOY_I_KRYZHEM yKRYZHEM_I_ZAPYATOY wZAKRYTAYA bf<_ZAPYATOY wS_ROGOM",
  "yDVUMYA_ZAPYATYMI yZAPYATOY_I_PODCHASHIEM pPOLKULIZMY pSTATYA_NEPOSTOY.NAYA r~LA_PROSTAYA",
  "wMRACHNO^KHAYA wKRYZHEVAYA wPOLUPOVODNAYA yVODNAYA wNEPOSTOY.NAYA wKLYUCHEPOVODNAYA",
  "bdNEPOSTOY.NAYA w^KHAYA_PUTNAYA wDVOECHELNAYA bfOKRYZHEVAYA bgPOVODNAYA bfAYA_KLYUCHEVAYA",
  "bfOPOVODNAYA_KLYUCHEVAYA wGROMNAYA#S*G+_ZAPYATAYA baOPOVODNAYA#S*G+_ZAPYATAYA baNAYA",
  "baOPOVODNAYA bk#DOUB+_ZAPYATAYA bbKRYZHEVAYA bl_POVODNAYA pMECHIK v_POVODNY wKLYUCHEVOY",
  "bdPOVODNY bdNEPOSTOY.NY pST~LA_TRYASOGLASNAYA bcPOVODNAYA bcST~LNAYA pOSOKA u<VETLAYA",
  "vT~SVETLAYA vKRYUKOVAYA<VETLAYA wLYUCHEVAYA<VETLAYA bhNEPOSTOY.NAYA pST~LA_KRYUKOVAYA",
  "bg_POVODNAYA bhGROMNAYA#S*G+_ZAPYATAYA blOPOVODNAYA#S*G+_ZAPYATAYA blNAYA blOPOVODNAYA",
  "bv#DOUB+_ZAPYATAYA bmKRYZHEVAYA bw_POVODNAYA bhTRYASKA pKUFISMA pOBLAKO pDUDA pNEMKA pPAUK",
  "1D000=aBYZ.T*E_MUSIC%<YMBOL_PSILI zDASEIA zP,ISPOM[I zOXEIA_EKF;I^K; bfDIPLI zV&EIA_EKF;I^K;",
  "bgDIPLI zKATHIS^ zSYRMA^KI zP&AKLI^KI zYPOKRISIS bi_DIPLI zK~MAS^ zAPESO_EKF;I^K;",
  "zEXO_EKF;I^K; zTE+IA zK[^MATA zAPOSTROFOS bj_DIPLI zSYNEVMA zTHITA zOLIG;_&CHAI; zGORG;_&CHAI;",
  "zPSIL; zCHAMIL; zVATHY zIS;_&CHAI; zK[^MA_&CHAI; bgTA_&CHAI; zSAXIMATA zP&ICH;",
  "zSTAVROS_APODEXIA zOXEIAI_&CHAI; zV&EIAI_&CHAI; zAPOD,MA_&CHAI; bcTHEMA zKLASMA z~VMA",
  "zPIASMA_&CHAI; zT*AGMA z.ATRICHISMA zSEISMA baYNAGMA_&CHAI; bhMETA<TAVROU zOYR.ISMA_&CHAI;",
  "zTHEMA z+MOI zDYO zTRIA baESS,A zKRA^MATA zAPESO_EXO_NEO zFTHORA_&CHAI; zIMIFTHORA",
  "zTROMIK;_&CHAI; zKATAVA_TROMIK; zPELAST; baSIFIST; zK;TEVMA zCHO~VMA_&CHAI; zRAPISMA",
  "zP&AK%ESMA_&CHAI; beLI^KI_&CHAI; zICHAD* zN.A zPETASMA zK;TEVMA_%LO zTROMIK;_%LO zSTRAGGISMATA",
  "zGR;THISMATA zIS;_NEO zOLIG;_NEO baXEIA_NEO zPETAS^ zKOUFISMA zPETASTOKOUFISMA zKRA^MOKOUFISMA",
  "zPELAST;_NEO zK[^MATA_NEO_.O bg_NEO_.O zYPSILI zAPOSTROFOS_NEO biI<YNDESMOS_NEO zYPORROI",
  "zKRA^MOYPORRO; zELAFR; zCHAMILI zMIKR;_IS; zV&EIA_NEO zPIASMA_NEO baSIFIST;_NEO zOM%; z.^K[OMA",
  "zLYGISMA zP&AKLI^KI_NEO be%ESMA_NEO zET,;_P&AK%ESMA zKYLISMA z.^K[OKYLISMA zTROMIK;_NEO",
  "zEKST~PT; zSYNAGMA_NEO bbRMA zCHO~VMA_NEO zEPEG,MA zSEISMA_NEO zXIR;_KLASMA zTROMIKOPSIFIST;",
  "zPSIFISTOLYGISMA zTROMIKOLYGISMA bgP&AK%ESMA zPSIFISTOP&AK%ESMA zTROMIKOSYNAGMA",
  "zPSIFISTOSYNAGMA zGORGOSYNTHET; z&GOSYNTHET; zET,;_&GOSYNTHET; zOYR.ISMA_NEO zTHEMA^SMOS_ESO",
  "bmXO be_APLOUN bcS_KAI_APOTHES zKATAVASMA z[DOF;; zYF[_KATO be.O zSTAVROS zKLASMA_.O",
  "zDIPLI_&CHAI; zKRA^MA_&CHAI; biLLO bhNEO zAPOD,MA_NEO bbLI zDIPLI zTRIPLI baETRAPLI zKOR;IS",
  "z+IMMA_[OS_CHR;OU bgDYO_CHR;; bgTRI;_CHR;; bhESS&;_CHR;; bgIMISEOS_CHR;OU zGORG;_NEO_.O",
  "bgP&ES^GM[;_&IST,A buDEXIA zDIGORG; bh_P&ES^GM[;_&IST,A_KATO cf.O bwDEXIA zTRIGORG; z&G;",
  "zIMIDI&G; zDI&G; zAGOGI_POLI_&GI bf&GOT,I biI bfMETRIA bhSI bfGORGI bjOT,I bfPOLI_GORGI",
  "zM&TYRIA_PROTOS_ICHOS bi%LI_PROTOS_ICHOS biDEYT,OS_ICHOS bi%LI_DEYT,OS_ICHOS biTRITOS_ICHOS",
  "blF;IAS bjET&TOS_ICHOS br+GETOS_ICHOS bi+GETOS_ICHOS biPLAGIOS_ICHOS zISAKIA_TELOUS_ICHIMATOS",
  "zAPOSTROFOI_TELOUS_ICHIMATOS zF.,OSIS_TETRAF;IAS bjM;OF;IAS bjDIF;IAS zM&TYRIA_V&YS_ICHOS",
  "biPROTOV&YS_ICHOS bjLAGIOS_TET&TOS_ICHOS zGORTHMIK;_N_APLOUN bmDIPLOUN z[&XIS_KAI_FTHORA_VOU",
  "zIMIF;; bdTHOR; zFTHORA_&CHAI;_DEYT,OU_ICHOU bgDIAT;IKI_PA bqN.A bgNAOS_ICHOS bgDIAT;IKI_DI",
  "bgSKLIR;_DIAT;;_DI bgDIAT;IKI_KE bqZO bqNI_KATO bt.O bgM%AK;_CHROMA_DIF;IAS bvM;OF;IAS",
  "baHTORA<KLIR;_CHROMA_VASIS baTHORA<KLIR;_CHROMA<YNAFI bgN[.O zCHROA_ZYGOS bfKLIT; bfSPATHI",
  "zFTHORA_I_YFESIS_TET&^MORI; bg[&M;IOS_.^F;IA zYFESIS_TRI^MORI; zDIESIS_TRI^MORI; bhET&^MORI;",
  "bgAPLI_DYO_DODEKATA bgM;OGRAMMOS_TESS,A_DODEKATA bgDIGRAMMOS_EX_DODEKATA",
  "bgTRIGRAMMOS_OKTO_DODEKATA zYFESIS_APLI_DYO_DODEKATA bgM;OGRAMMOS_TESS,A_DODEKATA",
  "bgDIGRAMMOS_EX_DODEKATA bgTRIGRAMMOS_OKTO_DODEKATA zG[IKI_DIESIS bgYFESIS zDIASTOLI_APLI_MIKRI",
  "boEG%I biDIPLI biTHESEOS zSIM.SIS_THESEOS bp_DISIMOU bqTRISIMOU brETRASIMOU bi&SEOS bo_DISIMOU",
  "bpTRISIMOU bqETRASIMOU zDIGRAMMA_GG bbFTOGGOS_OU zS^GMA z&K^KO_PA bhVOU bhGA bhDI bhKE bhZO",
  "bhNI zK[^MATA_NEO_MESO bg_NEO_MESO bgTA_NEO_KATO bg_NEO_KATO baLASMA_KATO zGORG;_NEO_KATO",
  "1D100=aMUSIC%<YMBOL<*G+_B&L*E pDOUB+_B&L*E pF*%_B&L*E p~V,SE_F*%_B&L*E pDASHE]B&L*E",
  "pSHORT_B&L*E p+FT_~PEAT<IGN pR(_~PEAT<IGN qEPEAT_DOTS pD%<EGNO r_CAPO pSEGNO pCODA",
  "p~PEATE]FIGU~-1 bf2 bf3 pF,MATA w_BELOW pB~ATH_M&K pCAESURA pBRACE tKET p;E-L*E<TAFF",
  "pTWO-L*E<TAFF qH~E-L*E<TAFF pFOUR-L*E<TAFF qIVE-L*E<TAFF pSIX-L*E<TAFF tSTR*G_F~TBO&D",
  "pFOUR-STR*G_F~TBO&D pG_C+F v_OTTAVA_%TA bdBASSA pC_C+F pF_C+F v_OTTAVA_%TA bdBASSA pDRUM_C+F-1",
  "z2 1D129=pMUL^P+_MEASU~_~ST pDOUB+<H&P wFLAT pFLAT_UP uDOWN pNATUR%_UP xDOWN pSH&P_UP vDOWN",
  "pQU&T,_T;E<H&P bcFLAT pCOMM;_^ME qUT_^ME pOTTAVA_%TA wBASSA pQU*DICESIMA_%TA bcBASSA pMUL^_~ST",
  "pWHO+_~ST pH%F_~ST pQU&T,_~ST pE(H_~ST pSIXTE[TH_~ST pTHIRTY-SEC;]~ST pSIXTY-FOURTH_~ST",
  "p;E_HUND~]TW[TY-E(H_~ST pX_NOTEHEAD pPLUS_NOTEHEAD pCIRC+_X_NOTEHEAD pSQU&E_NOTEHEA]WHITE",
  "bfBLACK pTRI.G+_NOTEHEA]UP_WHITE bkBLACK bh+FT_WHITE bmBLACK bhR(_WHITE bnBLACK bhDOWN_WHITE",
  "bmBLACK bhUP_R(_WHITE bqBLACK pMO;_NOTEHEA]WHITE bdBLACK pTRI.G+-ROUN]NOTEHEA]DOWN_WHITE",
  "bsBLACK pP&[THESIS_NOTEHEAD pVOI]NOTEHEAD pNOTEHEA]BLACK qULL_NOTEHEAD pCLUST,_NOTEHEA]WHITE",
  "bgBLACK pB~VE pWHO+_NOTE pH%F_NOTE pQU&T,_NOTE pE(H_NOTE pSIXTE[TH_NOTE pTHIRTY-SEC;]NOTE",
  "pSIXTY-FOURTH_NOTE p;E_HUND~]TW[TY-E(H_NOTE pCOMB**G<TEM baP~CHGES.G<TEM zT~MOLO-1 bh2 bh3",
  "pF*G,E]T~MOLO-1 bg2 bg3 pCOMB**G_AUGM[TA^;_DOT zFLAG-1 be2 be3 be4 be5 pBEG*_BEAM p[]BEAM",
  "pBEG*_^E p[]^E pBEG*<LUR p[D<LUR pBEG*_PHRASE p[]PHRASE pCOMB**G_ACC[T zSTACCATO zT[UTO",
  "zSTACCA^SSIMO zM&CATO bg-STACCATO zACC[T-STACCATO zLOU~ p&PEGGIATO_UP baDOWN pCOMB**G_DOIT",
  "zRIP zFLIP zSME& zB[D zDOUB+_T;GUE zTRIP+_T;GUE pR*FORZ.DO pSUBITO pZ pPI.O pMEZZO pFORTE",
  "pC~SC[DO pDEC~SC[DO pGRACE_NOTE<LASH baNO<LASH pTR qURN p*V,TE]TURN pTURN<LASH uUP",
  "pORNAM[T<TROKE-1 bf2 bf3 bf4 bf5 bf6 bf7 bf8 bf9 bf10 bg1 pHAUPTS^MME pNEB[S^MME p[]OF<^MME",
  "pDEG~E<LASH pCOMB**G_DOWN_BOW zUP_BOW zH&M;IC zSNAP_PIZZICATO pPED%_M&K vUP_M&K pH%F_PED%_M&K",
  "pGLISS.DO_UP zDOWN pWITH_F*G,NAILS pDAMP t_%L pMAXIMA pL;GA pB~VIS pSEMIB~VIS_WHITE baBLACK",
  "pM*IMA v_BLACK pSEMIM*IMA_WHITE baBLACK pFUSA_WHITE uBLACK pL;GA_P,FECTA_~ST vIMP,FECTA_~ST",
  "pB~VIS_~ST pSEMIB~VIS_~ST pM*IMA_~ST pSEMIM*IMA_~ST pTEMPUS_P,FECTUM_CUM_PROLA^;E_P,FECTA",
  "bvIMP,FECTA bvP,FECTA_DIM*U^;-1 wIMP,FECTUM_CUM_PROLA^;E_P,FECTA bxIMP,FECTA ch_DIM*U^;-1 ct2",
  "ct3 pCROIX pG~GORI._C_C+F zF_C+F pSQU&E_B pVIRGA pPODATUS pCLIVIS pSC.DICUS pCLIMACUS",
  "pTORCULUS pPOR~CTUS y_F+XUS pSC.DICUS_F+XUS pTORCULUS_~SUP*US pPES<UBPUNC^S pKIEV._C_C+F",
  "w[]OF_PIECE wF*%_NOTE w~CITA^VE_M&K wWHO+_NOTE wH%F_NOTE wQU&T,_NOTE<TEM_DOWN boUP",
  "wE(H_NOTE<TEM_DOWN bnUP wFLAT<IGN pSORI pKOR; 1D200=aG~EK_VOC%_NOTA^;<YMBOL-1 bc2 bc3 bc4 bc5",
  "bc6 bc7 bc8 bc9 bc10 bd1 bd2 bd3 bd4 bd5 bd6 bd7 bd8 bd9 bc20 bd1 bd2 bd3 bd4 bc50 bd1 bd2 bd3",
  "bd4 g*STRUM[T%_NOTA^;<YMBOL-1 bj2 bj4 bj5 bj7 bj8 bj11 bk2 bk3 bk4 bk7 bk8 bk9 bj23 bk4 bk5",
  "bk6 bk7 bk9 bj30 bk2 bk6 bk7 bk8 bk9 bj40 bk2 bk3 bk5 bk7 bk8 bk9 bj50 bk1 bk2 bk3 bk4",
  "aCOMB**G_G~EK_MUSIC%_TRISEME zETRASEME yP[TASEME aG~EK_MUSIC%_+IMMA 1D2E0=aMAY._NUM,%_Z,O o;E",
  "oTWO pH~E oFOUR pIVE oSIX pEV[ oE( oN*E oT[ oE+V[ oTWELVE pHIRTE[ oFOURTE[ pIFTE[ oSIXTE[",
  "pEV[TE[ oE(E[ oN*ETE[ 1D300=b;OGRAM_FOR_E&TH aDIGRAM_FOR_HEAV[LY_E&TH mUM._E&TH lE&THLY_HEAV[",
  "uUM. q aTETRAGRAM_FOR_C[T~ oFULL_CIRC+ oMI~D oB&RI, oKEEP*G<M%L oC;TR&IETY oASC[T oOPPOSI^;",
  "oBR.CH*G_OUT oDEFEC^V[ESS_OR_DISTOR^; pIV,G[CE oYOUTHFULNESS o*C~ASE oP[ETRA^; o~ACH oC;TACT",
  "oHOLD*G_BACK oWAIT*G oFOLLOW*G oADV.CE o~+ASE qSIST.CE oEASE oJOY oC;T[^; o[DEAVOUR oDU^ES",
  "oCH.GE oDECISIV[ESS oBOL]~SOLU^; oPACK*G o+GI; oCLOS[ESS oK*SHIP oGATH,*G oSTR[GTH oPURITY",
  "oFULLNESS o~SID[CE oLAW_OR_MODEL o~SP;SE oGO*G_TO_MEET o[COUNT,S oSTOVE oG~ATNESS o[L&GEM[T",
  "oPATT,N oRITU% oFL( oVASTNESS_OR_WAST*G oC;ST.CY oMEASU~ oET,NITY oUNITY oDIM*ISHM[T",
  "oCLOSE]MOUTH oGU&DEDNESS pATH,*G_* oMASS*G oACCUMULA^; oEMBELLISHM[T oDOUBT oWATCH oS*K*G o*N,",
  "oDEP&TU~ p&K[*G pIMM*G oEXHAUS^; oSEV,.CE pTOPPAGE oH&DNESS oCOMP+^; pLOSU~ oFAILU~ oAGGRAVA^;",
  "oCOMPLI.CE o;_THE_V,GE oDIFFICUL^ES oLABOUR*G oFOST,*G 1D360=aCOUNT*G_RO]UNIT_DIGIT_;E yTWO",
  "zH~E yFOUR zIVE ySIX zEV[ yE( yN*E nT[S_DIGIT_;E yTWO zH~E yFOUR zIVE ySIX zEV[ yE( yN*E",
  "aIDEOGRAPHIC_T%LY_M&K_;E xTWO yH~E xFOUR yIVE aT%LY_M&K_;E lFIVE",
  "1D400=aMATHEMA^C%_BOL]CAPIT%_A baB baC baD baE baF baG baH baI baJ baK baL baM baN baO baP baQ",
  "baR baS baT baU baV baW baX baY baZ sSM%L_A yB yC yD yE yF yG yH yI yJ yK yL yM yN yO yP yQ yR",
  "yS yT yU yV yW yX yY yZ nIT%IC_CAPIT%_A bcB bcC bcD bcE bcF bcG bcH bcI bcJ bcK bcL bcM bcN",
  "bcO bcP bcQ bcR bcS bcT bcU bcV bcW bcX bcY bcZ uSM%L_A baB baC baD baE baF baG 1D456=baI baJ",
  "baK baL baM baN baO baP baQ baR baS baT baU baV baW baX baY baZ nBOL]IT%IC_CAPIT%_A bhB bhC",
  "bhD bhE bhF bhG bhH bhI bhJ bhK bhL bhM bhN bhO bhP bhQ bhR bhS bhT bhU bhV bhW bhX bhY bhZ",
  "zSM%L_A bfB bfC bfD bfE bfF bfG bfH bfI bfJ bfK bfL bfM bfN bfO bfP bfQ bfR bfS bfT bfU bfV",
  "bfW bfX bfY bfZ nSCRIPT_CAPIT%_A 1D49E=bcC bcD 1D4A2=bcG 1D4A5=bcJ bcK 1D4A9=bcN bcO bcP bcQ",
  "1D4AE=bcS bcT bcU bcV bcW bcX bcY bcZ uSM%L_A baB baC baD 1D4BB=baF 1D4BD=baH baI baJ baK baL",
  "baM baN 1D4C5=baP baQ baR baS baT baU baV baW baX baY baZ nBOLD<CRIPT_CAPIT%_A bhB bhC bhD bhE",
  "bhF bhG bhH bhI bhJ bhK bhL bhM bhN bhO bhP bhQ bhR bhS bhT bhU bhV bhW bhX bhY bhZ zSM%L_A",
  "bfB bfC bfD bfE bfF bfG bfH bfI bfJ bfK bfL bfM bfN bfO bfP bfQ bfR bfS bfT bfU bfV bfW bfX",
  "bfY bfZ nFRAKTUR_CAPIT%_A bdB 1D507=bdD bdE bdF bdG 1D50D=bdJ bdK bdL bdM bdN bdO bdP bdQ",
  "1D516=bdS bdT bdU bdV bdW bdX bdY 1D51E=vSM%L_A bbB bbC bbD bbE bbF bbG bbH bbI bbJ bbK bbL",
  "bbM bbN bbO bbP bbQ bbR bbS bbT bbU bbV bbW bbX bbY bbZ nDOUB+-STRUCK_CAPIT%_A bjB 1D53B=bjD",
  "bjE bjF bjG 1D540=bjI bjJ bjK bjL bjM 1D546=bjO 1D54A=bjS bjT bjU bjV bjW bjX bjY",
  "1D552=bbSM%L_A bhB bhC bhD bhE bhF bhG bhH bhI bhJ bhK bhL bhM bhN bhO bhP bhQ bhR bhS bhT bhU",
  "bhV bhW bhX bhY bhZ nBOL]FRAKTUR_CAPIT%_A biB biC biD biE biF biG biH biI biJ biK biL biM biN",
  "biO biP biQ biR biS biT biU biV biW biX biY biZ baSM%L_A bgB bgC bgD bgE bgF bgG bgH bgI bgJ",
  "bgK bgL bgM bgN bgO bgP bgQ bgR bgS bgT bgU bgV bgW bgX bgY bgZ nS.S-S,IF_CAPIT%_A bgB bgC bgD",
  "bgE bgF bgG bgH bgI bgJ bgK bgL bgM bgN bgO bgP bgQ bgR bgS bgT bgU bgV bgW bgX bgY bgZ",
  "ySM%L_A beB beC beD beE beF beG beH beI beJ beK beL beM beN beO beP beQ beR beS beT beU beV",
  "beW beX beY beZ yBOL]CAPIT%_A blB blC blD blE blF blG blH blI blJ blK blL blM blN blO blP blQ",
  "blR blS blT blU blV blW blX blY blZ bdSM%L_A bjB bjC bjD bjE bjF bjG bjH bjI bjJ bjK bjL bjM",
  "bjN bjO bjP bjQ bjR bjS bjT bjU bjV bjW bjX bjY bjZ yIT%IC_CAPIT%_A bnB bnC bnD bnE bnF bnG",
  "bnH bnI bnJ bnK bnL bnM bnN bnO bnP bnQ bnR bnS bnT bnU bnV bnW bnX bnY bnZ bfSM%L_A blB blC",
  "blD blE blF blG blH blI blJ blK blL blM blN blO blP blQ blR blS blT blU blV blW blX blY blZ",
  "yBOL]IT%IC_CAPIT%_A bsB bsC bsD bsE bsF bsG bsH bsI bsJ bsK bsL bsM bsN bsO bsP bsQ bsR bsS",
  "bsT bsU bsV bsW bsX bsY bsZ bkSM%L_A bqB bqC bqD bqE bqF bqG bqH bqI bqJ bqK bqL bqM bqN bqO",
  "bqP bqQ bqR bqS bqT bqU bqV bqW bqX bqY bqZ nM;OSPACE_CAPIT%_A bfB bfC bfD bfE bfF bfG bfH bfI",
  "bfJ bfK bfL bfM bfN bfO bfP bfQ bfR bfS bfT bfU bfV bfW bfX bfY bfZ xSM%L_A bdB bdC bdD bdE",
  "bdF bdG bdH bdI bdJ bdK bdL bdM bdN bdO bdP bdQ bdR bdS bdT bdU bdV bdW bdX bdY bdZ",
  "nIT%IC<M%L_DOT+SS_I biJ 1D6A8=nBOL]CAPIT%_%PHA baBETA baGAMMA baDELTA baEPSIL; baZETA baETA",
  "baTHETA baIOTA baKAPPA baLAMDA baMU baNU baXI baOMICR; baPI baRHO baTHETA<YMBOL baSIGMA baTAU",
  "baUPSIL; baPHI baCHI baPSI baOMEGA sNABLA sSM%L_%PHA yBETA yGAMMA yDELTA yEPSIL; yZETA yETA",
  "yTHETA yIOTA yKAPPA yLAMDA yMU yNU yXI yOMICR; yPI yRHO yF*%<IGMA ySIGMA yTAU yUPSIL; yPHI",
  "yCHI yPSI yOMEGA sP&^%_DIFF,[^% sEPSIL;<YMBOL sTHETA<YMBOL sKAPPA<YMBOL sPHI<YMBOL sRHO<YMBOL",
  "sPI<YMBOL nIT%IC_CAPIT%_%PHA bcBETA bcGAMMA bcDELTA bcEPSIL; bcZETA bcETA bcTHETA bcIOTA",
  "bcKAPPA bcLAMDA bcMU bcNU bcXI bcOMICR; bcPI bcRHO bcTHETA<YMBOL bcSIGMA bcTAU bcUPSIL; bcPHI",
  "bcCHI bcPSI bcOMEGA uNABLA uSM%L_%PHA baBETA baGAMMA baDELTA baEPSIL; baZETA baETA baTHETA",
  "baIOTA baKAPPA baLAMDA baMU baNU baXI baOMICR; baPI baRHO baF*%<IGMA baSIGMA baTAU baUPSIL;",
  "baPHI baCHI baPSI baOMEGA uP&^%_DIFF,[^% uEPSIL;<YMBOL uTHETA<YMBOL uKAPPA<YMBOL uPHI<YMBOL",
  "uRHO<YMBOL uPI<YMBOL nBOL]IT%IC_CAPIT%_%PHA bhBETA bhGAMMA bhDELTA bhEPSIL; bhZETA bhETA",
  "bhTHETA bhIOTA bhKAPPA bhLAMDA bhMU bhNU bhXI bhOMICR; bhPI bhRHO bhTHETA<YMBOL bhSIGMA bhTAU",
  "bhUPSIL; bhPHI bhCHI bhPSI bhOMEGA zNABLA zSM%L_%PHA bfBETA bfGAMMA bfDELTA bfEPSIL; bfZETA",
  "bfETA bfTHETA bfIOTA bfKAPPA bfLAMDA bfMU bfNU bfXI bfOMICR; bfPI bfRHO bfF*%<IGMA bfSIGMA",
  "bfTAU bfUPSIL; bfPHI bfCHI bfPSI bfOMEGA zP&^%_DIFF,[^% zEPSIL;<YMBOL zTHETA<YMBOL",
  "zKAPPA<YMBOL zPHI<YMBOL zRHO<YMBOL zPI<YMBOL nS.S-S,IF_BOL]CAPIT%_%PHA blBETA blGAMMA blDELTA",
  "blEPSIL; blZETA blETA blTHETA blIOTA blKAPPA blLAMDA blMU blNU blXI blOMICR; blPI blRHO",
  "blTHETA<YMBOL blSIGMA blTAU blUPSIL; blPHI blCHI blPSI blOMEGA bdNABLA bdSM%L_%PHA bjBETA",
  "bjGAMMA bjDELTA bjEPSIL; bjZETA bjETA bjTHETA bjIOTA bjKAPPA bjLAMDA bjMU bjNU bjXI bjOMICR;",
  "bjPI bjRHO bjF*%<IGMA bjSIGMA bjTAU bjUPSIL; bjPHI bjCHI bjPSI bjOMEGA bdP&^%_DIFF,[^%",
  "bdEPSIL;<YMBOL bdTHETA<YMBOL bdKAPPA<YMBOL bdPHI<YMBOL bdRHO<YMBOL bdPI<YMBOL",
  "bdIT%IC_CAPIT%_%PHA bsBETA bsGAMMA bsDELTA bsEPSIL; bsZETA bsETA bsTHETA bsIOTA bsKAPPA",
  "bsLAMDA bsMU bsNU bsXI bsOMICR; bsPI bsRHO bsTHETA<YMBOL bsSIGMA bsTAU bsUPSIL; bsPHI bsCHI",
  "bsPSI bsOMEGA bkNABLA bkSM%L_%PHA bqBETA bqGAMMA bqDELTA bqEPSIL; bqZETA bqETA bqTHETA bqIOTA",
  "bqKAPPA bqLAMDA bqMU bqNU bqXI bqOMICR; bqPI bqRHO bqF*%<IGMA bqSIGMA bqTAU bqUPSIL; bqPHI",
  "bqCHI bqPSI bqOMEGA bkP&^%_DIFF,[^% bkEPSIL;<YMBOL bkTHETA<YMBOL bkKAPPA<YMBOL bkPHI<YMBOL",
  "bkRHO<YMBOL bkPI<YMBOL nBOL]CAPIT%_DIGAMMA sSM%L_DIGAMMA 1D7CE=sDIGIT_Z,O y;E yTWO zH~E yFOUR",
  "zIVE ySIX zEV[ yE( yN*E nDOUB+-STRUCK_DIGIT_Z,O bh;E bhTWO biH~E bhFOUR biIVE bhSIX biEV[ bhE(",
  "bhN*E nS.S-S,IF_DIGIT_Z,O be;E beTWO bfH~E beFOUR bfIVE beSIX bfEV[ beE( beN*E yBOL]DIGIT_Z,O",
  "bj;E bjTWO bkH~E bjFOUR bkIVE bjSIX bkEV[ bjE( bjN*E nM;OSPACE_DIGIT_Z,O bd;E bdTWO beH~E",
  "bdFOUR beIVE bdSIX beEV[ bdE( bdN*E aSIGNWRIT*G_H.D-FIST_*DEX rCIRC+_*DEX sUP_*DEX rOV%_*DEX",
  "rH*GE_*DEX r.G+_*DEX rFIST_*DEX_B[T rCIRC+_*DEX_B[T rFIST_THUMB_UND,_*DEX_B[T",
  "w*DEX_RAISE]KNUCK+ bcCUPPED bcH*GED bi_LOW rCIRC+_*DEX_H*GE rFIST_*DEX_MIDD+ rCIRC+_*DEX_MIDD+",
  "rFIST_*DEX_MIDD+_B[T bjRAISE]KNUCK+S bjH*GED bcUP_MIDD+_H*GED bcH*GE]MIDD+_UP bcMIDD+_C;JO*ED",
  "bs_*DEX_B[T btMIDD+_B[T btCUPPED btH*GED bkROSSED rCIRC+_*DEX_MIDD+_CROSSED",
  "rFIST_MIDD+_B[T_OV,_*DEX w*DEX_B[T_OV,_MIDD+ bcMIDD+_THUMB rCIRC+_*DEX_MIDD+_THUMB",
  "rFIST_*DEX_MIDD+<TRA(_THUMB_B[T bjB[T_THUMB<TRA( bjTHUMB_B[T bjH*GED<P~A]THUMB<IDE",
  "bcUP_MIDD+_H*GE]THUMB<IDE bzC;JO*ED bcH*GE]MIDD+_UP_THUMB<IDE bcMIDD+_UP<P~A]THUMB_FORW&D",
  "bjTHUMB_CUPPED bqIRC+D bpHOOKED bq*GED wTHUMB_BETWE[_*DEX_MIDD+<TRA(",
  "w*DEX_MIDD+_C;JO*E]THUMB<IDE cd_C;JO*ED ceB[T wMIDD+_THUMB_HOOKE]*DEX_UP",
  "w*DEX_THUMB_HOOKE]MIDD+_UP bcMIDD+_C;JO*E]H*GE]THUMB<IDE bkROSSE]THUMB<IDE",
  "bk;JO*E]THUMB_FORW&D btCUPPE]THUMB_FORW&D wMIDD+_THUMB_CUPPE]*DEX_UP",
  "w*DEX_THUMB_CUPPE]MIDD+_UP wMIDD+_THUMB_CIRC+]*DEX_UP bxH*GED w*DEX_THUMB_.G+]OUT_MIDD+_UP",
  "bp*_MIDD+_UP biCIRC+]MIDD+_UP bcMIDD+_THUMB_C;JO*E]H*GED bp.G+]OUT bv",
  "wMIDD+_THUMB_.G+]OUT_*DEX_UP caCROSSED bq*DEX_UP w*DEX_THUMB_HOOKE]MIDD+_H*GED sLAT_FOUR_F*G,S",
  "bi_B[T bjH*GED bjC;JO*ED bs<PLIT rCLAW_FOUR_F*G,S_C;JO*ED rFIST_FOUR_F*G,S_C;JO*E]B[T",
  "rH*GE_FOUR_F*G,S_C;JO*ED rFLAT_FIVE_F*G,S<P~AD wHEEL_FIVE_F*G,S<P~AD wFIVE_F*G,S<P~A]FOUR_B[T",
  "wHEEL_FIVE_F*G,S<P~A]FOUR_B[T wFIVE_F*G,S<P~A]B[T wHEEL_FIVE_F*G,S<P~A]B[T",
  "wFIVE_F*G,S<P~A]THUMB_FORW&D rCUP_FIVE_F*G,S<P~AD bo_OP[ rH*GE_FIVE_F*G,S<P~A]OP[",
  "rOV%_FIVE_F*G,S<P~AD rFLAT_FIVE_F*G,S<P~A]H*GED bw_THUMB<IDE bxNO_THUMB v v_BETWE[_P%M_FAC*GS",
  "wHEEL wTHUMB<IDE wHEEL_THUMB<IDE wTHUMB_B[T bcFORW&D wSPLIT_*DEX_THUMB<IDE bcC[T~ bi_THUMB<IDE",
  "bt_B[T bcLITT+ rCLAW v_THUMB<IDE wNO_THUMB wTHUMB_FORW&D rHOOK_CURLICUE v rCUP_OP[ u",
  "u_OP[_THUMB<IDE vTHUMB<IDE vOP[_NO_THUMB vNO_THUMB vOP[_THUMB_FORW&D vTHUMB_FORW&D tRLICUE_OP[",
  "z sIRC+ rOV% v_THUMB<IDE wNO_THUMB wTHUMB_FORW&D rH*GE_OP[ bb_THUMB_FORW&D w w<M%L",
  "xOP[_THUMB<IDE xTHUMB<IDE xOP[_NO_THUMB xNO_THUMB xTHUMB<IDE_TOUCH*G_*DEX bdBETWE[_MIDD+_R*G",
  "r.G+ rFIST_*DEX_MIDD+_R*G rCIRC+_*DEX_MIDD+_R*G rH*GE_*DEX_MIDD+_R*G r.G+_*DEX_MIDD+_R*G",
  "rH*GE_LITT+ rFIST_*DEX_MIDD+_R*G_B[T boC;JO*ED rH*GE_*DEX_MIDD+_R*G_C;JO*ED rFIST_LITT+_DOWN",
  "bh_RIPP+<TRA( bpCURVED biOTH,S_CIRC+D bdUP wTHUMB_UND,_LITT+_UP rCIRC+_LITT+_UP rOV%_LITT+_UP",
  "r.G+_LITT+_UP rFIST_LITT+_RAISE]KNUCK+ bdB[T bdTOUCHES_THUMB beHUMB rH*GE_LITT+_THUMB",
  "rFIST_LITT+_*DEX_THUMB rH*GE_LITT+_*DEX_THUMB r.G+_LITT+_*DEX_THUMB_*DEX_THUMB_OUT cb",
  "rFIST_LITT+_*DEX rCIRC+_LITT+_*DEX rH*GE_LITT+_*DEX r.G+_LITT+_*DEX rFIST_*DEX_MIDD+_LITT+",
  "rCIRC+_*DEX_MIDD+_LITT+ rH*GE_*DEX_MIDD+_LITT+ xR*G r.G+_*DEX_MIDD+_LITT+",
  "rFIST_*DEX_MIDD+_CROSS_LITT+ rCIRC+_*DEX_MIDD+_CROSS_LITT+ rFIST_R*G_DOWN",
  "rH*GE_R*G_DOWN_*DEX_THUMB_HOOK_MIDD+ r.G+_R*G_DOWN_MIDD+_THUMB_*DEX_CROSS rFIST_R*G_UP",
  "bbRAISE]KNUCK+ bbLITT+ rCIRC+_R*G_LITT+ rOV%_R*G_LITT+ r.G+_R*G_LITT+ rFIST_R*G_MIDD+",
  "bh_C;JO*ED biRAISE]KNUCK+S bb*DEX bbTHUMB rHOOK_R*G_THUMB rFIST_*DEX_R*G_LITT+",
  "rCIRC+_*DEX_R*G_LITT+ sURLICUE_*DEX_R*G_LITT+_; rHOOK_*DEX_R*G_LITT+_OUT bo* boUND,",
  "rCUP_*DEX_R*G_LITT+ rH*GE_*DEX_R*G_LITT+ r.G+_*DEX_R*G_LITT+_OUT bo rFIST_MIDD+_DOWN",
  "rH*GE_MIDD+ rFIST_MIDD+_UP rCIRC+_MIDD+_UP rFIST_MIDD+_RAISE]KNUCK+ bdUP_THUMB<IDE",
  "rHOOK_MIDD+_THUMB rFIST_MIDD+_THUMB_LITT+ bdLITT+ bdR*G_LITT+ rCIRC+_MIDD+_R*G_LITT+",
  "sURLICUE_MIDD+_R*G_LITT+_; tP_MIDD+_R*G_LITT+ rH*GE_MIDD+_R*G_LITT+ r.G+_MIDD+_R*G_LITT+_OUT",
  "bq* bp rCIRC+_MIDD+_R*G_LITT+_B[T sLAW_MIDD+_R*G_LITT+_C;JO*ED by<IDE",
  "rHOOK_MIDD+_R*G_LITT+_C;JO*E]OUT bz* by s*GE_*DEX_H*GED rFIST_*DEX_THUMB<IDE",
  "rH*GE_*DEX_THUMB<IDE rFIST_*DEX_THUMB<IDE_THUMB_DIAG;% btC;JO*ED btB[T bn*DEX_B[T bnBOTH_B[T",
  "bn*DEX_H*GE biFORW&]*DEX<TRA( bwB[T biHOOK biCURLICUE blVE_THUMB_*SIDE",
  "rCLAW_*DEX_THUMB_CURVE_THUMB_*SIDE rFIST_*DEX_THUMB_CURVE_THUMB_UND, bjIRC+ rCUP_*DEX_THUMB",
  "bg_OP[ rH*GE_*DEX_THUMB_OP[ bjL&GE bi bi<M%L r.G+_*DEX_THUMB_OUT bj* bi rFIST_THUMB bb_HEEL",
  "bcSIDE_DIAG;% bhC;JO*ED bhB[T bcFORW&D bcBETWE[_*DEX_MIDD+ bkMIDD+_R*G bkR*G_LITT+",
  "bcUND,_TWO_F*G,S bcOV,_TWO_F*G,S bcUND,_TH~E_F*G,S biFOUR_F*G,S bcOV,_FOUR_RAISE]KNUCK+S v",
  "v_HEEL mTOUCH<*G+ sMUL^P+ sBETWE[ mGRASP<*G+ sMUL^P+ sBETWE[ mSTRIKE<*G+ tMUL^P+ tBETWE[",
  "mBRUSH<*G+ sMUL^P+ sBETWE[ mRUB<*G+ qMUL^P+ qBETWE[ mSURFACE<YMBOLS uBETWE[ nQUEEZE_L&GE<*G+",
  "uSM%L<*G+ uL&GE_MUL^P+ uSM%L_MUL^P+ vEQU[^% mFLICK_L&GE<*G+ sSM%L<*G+ sL&GE_MUL^P+",
  "sSM%L_MUL^P+ tEQU[^% mSQUEEZE_FLICK_%T,NAT*G mMOVEM[T-H*GE_UP_DOWN_L&GE bjSM%L beSEQU[^%",
  "bbDOWN<EQU[^% bbUP_DOWN_%T,NAT*G_L&GE bvSM%L bbSIDE_TO<IDE<CISSORS vW%LPL.E_F*G,_C;TACT",
  "vFLOORPL.E_F*G,_C;TACT vW%LPL.E<*G+<TRA(<M%L bvMEDIUM bvL&GE caST bmWRIST_F+X bfDOUB+<TRA(",
  "bmWRIST_F+X bm%T,NAT*G bx_WRIST_F+X bfCROSS bfTRIP+<TRA(_MOVEM[T bmWRIST_F+X bm%T,NAT*G",
  "bx_WRIST_F+X bfB[D<M%L bkMEDIUM bkL&GE bfCORN,<M%L bmMEDIUM bmL&GE bmROTA^; bgHECK<M%L",
  "blMEDIUM blL&GE bfBOX<M%L bjMEDIUM bjL&GE bfZIGZAG<M%L bmMEDIUM bmL&GE bfPEAKS<M%L blMEDIUM",
  "blL&GE mTRAVEL-W%LPL.E_ROTA^;-W%LPL.E<*G+ bwDOUB+ bw%T,NAT*G bmFLOORPL.E<*G+ bxDOUB+",
  "bx%T,NAT*G bdSHAK*G bd&M<PIR%<*G+ boDOUB+ boTRIP+ mMOVEM[T-DIAG;%_AWAY<M%L bjMEDIUM bjL&GE",
  "boST beTO|<M%L bmMEDIUM bmL&GE brST beBETWE[_AWAY<M%L brMEDIUM brL&GE bwST bmTO|<M%L buMEDIUM",
  "buL&GE bzST vFLOORPL.E<*G+<TRA(<M%L bwMEDIUM bwL&GE cbST bnWRIST_F+X bgDOUB+<TRA( bnWRIST_F+X",
  "bn%T,NAT*G by_WRIST_F+X bgCROSS bgTRIP+<TRA(_MOVEM[T bnWRIST_F+X bn%T,NAT*G_MOVEM[T",
  "bzWRIST_F+X bgB[D bgCORN,<M%L bnMEDIUM bnL&GE bhHECK bgBOX<M%L bkMEDIUM bkL&GE bgZIGZAG<M%L",
  "bnMEDIUM bnL&GE bgPEAKS<M%L bmMEDIUM bmL&GE mTRAVEL-FLOORPL.E_ROTA^;-FLOORPL.E<*G+ byDOUB+",
  "by%T,NAT*G bnW%LPL.E<*G+ bxDOUB+ bx%T,NAT*G beSHAK*G mMOVEM[T-W%LPL.E_CURVE_QU&T,<M%L btMEDIUM",
  "btL&GE byST blH%F-CIRC+<M%L bxMEDIUM bxL&GE ccST blTH~E-QU&T,_CIRC+<M%L cgMEDIUM bfHUMP<M%L",
  "bkMEDIUM bkL&GE bfLOOP<M%L bkMEDIUM bkL&GE bkSM%L_DOUB+ bfWAVE_CURVE_DOUB+<M%L bxMEDIUM bxL&GE",
  "bqTRIP+<M%L bxMEDIUM bxL&GE bfCURVE_TH[<TRA( bk]CROSS<M%L bsMEDIUM mROTA^;-W%LPL.E<*G+ bfDOUB+",
  "bf%T,NATE mMOVEM[T-W%LPL.E<HAK*G bfCURVE_HITT*G_FR;T_W%L bfHUMP_HITT*G_FR;T_W%L",
  "bfLOOP_HITT*G_FR;T_W%L bfWAVE_HITT*G_FR;T_W%L mROTA^;-W%LPL.E<*G+_HITT*G_FR;T_W%L",
  "bfDOUB+_HITT*G_FR;T_W%L bf%T,NAT*G_HITT*G_FR;T_W%L mMOVEM[T-W%LPL.E_CURVE_HITT*G_CHEST",
  "bfHUMP_HITT*G_CHEST bfLOOP_HITT*G_CHEST bfWAVE_HITT*G_CHEST mROTA^;-W%LPL.E<*G+_HITT*G_CHEST",
  "bfDOUB+_HITT*G_CHEST bf%T,NAT*G_HITT*G_CHEST mMOVEM[T-W%LPL.E_WAVE_DIAG;%_PATH<M%L byMEDIUM",
  "byL&GE vFLOORPL.E_CURVE_HITT*G_CEIL*G<M%L ccL&GE bgHUMP_HITT*G_CEIL*G<M%L_DOUB+ cbL&GE_DOUB+",
  "cbSM%L_TRIP+ cbL&GE_TRIP+ bgLOOP_HITT*G_CEIL*G<M%L<*G+ cbL&GE<*G+ cbSM%L_DOUB+ cbL&GE_DOUB+",
  "bgWAVE_HITT*G_CEIL*G<M%L cbL&GE mROTA^;-FLOORPL.E<*G+_HITT*G_CEIL*G bgDOUB+_HITT*G_CEIL*G",
  "bg%T,NAT*G_HITT*G_CEIL*G mMOVEM[T-FLOORPL.E_CURVE_HITT*G_FLOOR<M%L caL&GE",
  "bgHUMP_HITT*G_FLOOR<M%L_DOUB+ bzL&GE_DOUB+ bzTRIP+<M%L_TRIP+ cgL&GE_TRIP+",
  "bgLOOP_HITT*G_FLOOR<M%L<*G+ bzL&GE<*G+ bzSM%L_DOUB+ bzL&GE_DOUB+ bgWAVE_HITT*G_FLOOR<M%L",
  "bzL&GE mROTA^;-FLOORPL.E<*G+_HITT*G_FLOOR bgDOUB+_HITT*G_FLOOR bg%T,NAT*G_HITT*G_FLOOR",
  "mMOVEM[T-FLOORPL.E_CURVE<M%L bmMEDIUM bmL&GE brST bmCOMB*ED bgHUMP<M%L bgLOOP<M%L bgWAVE<NAKE",
  "bmM%L blL&GE mROTA^;-FLOORPL.E<*G+ bgDOUB+ bg%T,NAT*G mMOVEM[T-FLOORPL.E<HAK*G_P&%+L",
  "vW%LPL.E_&M_CIRC+<M%L<*G+ bqMEDIUM<*G+ bqSM%L_DOUB+ bqMEDIUM_DOUB+",
  "vFLOORPL.E_&M_CIRC+_HITT*G_W%L<M%L<*G+ ceMEDIUM<*G+ ceL&GE<*G+ ceSM%L_DOUB+ ceMEDIUM_DOUB+",
  "ceL&GE_DOUB+ vW%LPL.E_WRIST_CIRC+_FR;T<*G+ byDOUB+ vFLOORPL.E_WRIST_CIRC+_HITT*G_W%L<*G+",
  "cgDOUB+ vW%LPL.E_F*G,_CIRC+S<*G+ buDOUB+ vFLOORPL.E_F*G,_CIRC+S_HITT*G_W%L<*G+ ciDOUB+",
  "mDYNAMIC:HEAD<M%L beL&GE uFAST uSLOW uT[SE u~LAXED uSIMULT.EOUS bg_%T,NAT*G uEV,Y_OTH,_^ME",
  "uGRADU% mHEAD q_RIM rMOVEM[T-W%LPL.E<TRA( bk^LT baFLOORPL.E<TRA( baW%LPL.E_CURVE",
  "baFLOORPL.E_CURVE z_CIRC+ mFACE_DI~C^;_POSI^;_NOSE_FORW&]^LT*G bpUP_OR_DOWN bz_^LT*G",
  "mEYEBROWS<TRA(_UP beNEUTR% beDOWN mD~AMY_EYEBROWS_NEUTR%_DOWN bcDOWN_NEUTR% bcUP_NEUTR%",
  "bcNEUTR%_UP mFO~HEA]NEUTR% vC;TACT vWR*K+D mEYES_OP[ rSQUEEZED rCLOSED p_BL*K<*G+ wMUL^P+",
  "pS_H%F_OP[ rWIDE_OP[ rH%F_CLOSED rWID[*G_MOVEM[T p_W*K pLASHES_UP wDOWN wFLUTT,*G",
  "pGAZE-W%LPL.E<TRA( bm_DOUB+ bn%T,NAT*G uFLOORPL.E<TRA( bn_DOUB+ bo%T,NAT*G uW%LPL.E_CURVED",
  "uFLOORPL.E_CURVED uW%LPL.E_CIRCL*G mCHEEKS_PUFFED tNEUTR% tSUCKED mT[SE_CHEEKS_HIGH zMIDD+",
  "zLOW mE&S mNOSE_NEUTR% rC;TACT rWR*K+S sIGG+S mAIR_BLOW*G_OUT qSUCK*G_* qBLOW<M%L_ROTA^;S",
  "qSUCK<M%L_ROTA^;S mB~ATH_*H%E tEXH%E mMOUTH_CLOSE]NEUTR% zFORW&D zC;TACT sSMI+ x_WR*K+D yOP[",
  "sFROWN x_WR*K+D yOP[ sOP[_CIRC+ xFORW&D xWR*K+D xOV% bb_WR*K+D bcYAWN x~CT.G+ bg_WR*K+D bhYAWN",
  "sKISS w_FORW&D xWR*K+D sT[SE x_FORW&D ySUCKED mLIPS_P~SSE]TOGETH, p_LOW,_OV,_UPP,",
  "qUPP,_OV,_LOW, mMOUTH_CORN,S sWR*K+S<*G+ bbDOUB+ mT;GUE<^CK*G_OUT_F& tLICK*G_LIPS",
  "t^P_BETWE[_LIPS xTOUCH*G_*SIDE_MOUTH t*SIDE_MOUTH_~LAXED tMOVES_AGA*ST_CHEEK tC[T~<^CK*G_OUT",
  "ba*SIDE_MOUTH nEETH r_MOVEM[T s;_T;GUE bb_MOVEM[T vLIPS z_MOVEM[T sBITE_LIPS",
  "mMOVEM[T-W%LPL.E_JAW vFLOORPL.E_JAW mNECK mHAIR mEXCITEM[T mSHOULD,_HIP<P*E zPOSI^;S",
  "mW%LPL.E<HOULD,_HIP_MOVE mFLOORPL.E<HOULD,_HIP_MOVE mSHOULD,_^LT*G_FROM_WAIST",
  "mTORSO-W%LPL.E<TRA(<T~TCH bcCURVE]B[D sFLOORPL.E_TWIST*G mUPP,_BODY_^LT*G_FROM_HIP_JO*TS",
  "mLIMB_COMB*A^; r+NGTH-1 y2 y3 y4 y5 y6 y7 mF*G, mLOCA^;-W%LPL.E<PACE vFLOORPL.E<PACE u_HE(",
  "vWIDTH vDEPTH vHEA]NECK vTORSO vLIMBS_DIGITS mCOMMA mFULL<TOP mSEMICOL; mCOL; mP&[THESIS",
  "1DA9B=mFILL_MODIFI,-2 ba3 ba4 ba5 ba6 1DAA1=mROTA^;_MODIFI,-2 be3 be4 be5 be6 be7 be8 be9 be10",
  "bf1 bf2 bf3 bf4 bf5 bf6 1DF00=aLAT*<M%!F[G_DIGRAPH#TRILL t~V,SED<CRIPT_G",
  "g+TT,<M%L_CAPIT%_TURNE]G g@~V,SE]K g+TT,<M%L_CAPIT%_L#BELT g@+ZH#~TROF+X_HOOK tTURNE]Y#BELT",
  "t~V,SE][G tTURNE]R#L;G_+G_.]~TROF+X_HOOK u#HOOK_.]~TROF+X_HOOK",
  "g+TT,_~TROF+X_CLICK#~TROF+X_HOOK g@ESH#DOUB+_B& bm_.]CURL tTURNE]T#CURL",
  "g+TT,_*V,TE]GLOTT%<TOP#CURL nST~TCHE]C#CURL oM%L_CAPIT%_TURNE]K g@L#FISHHOOK",
  "tDEZH_DIGRAPH#P%AT%_HOOK tL#BELT_.]P%AT%_HOOK t[G#P%AT%_HOOK tTURNE]R#P%AT%_HOOK",
  "tR#FISHHOOK_.]P%AT%_HOOK tTESH_DIGRAPH#P%AT%_HOOK tEZH#P%AT%_HOOK tDEZH_DIGRAPH#~TROF+X_HOOK",
  "tI#STROKE_.]~TROF+X_HOOK tO#~TROF+X_HOOK tTESH_DIGRAPH#~TROF+X_HOOK tC#~TROF+X_HOOK tS#CURL",
  "1E000=aCOMB**G_GLAGOLI^C_+TT,_AZU bcBUKY bcVEDE bcGLAGOLI bcDOBRO bcYESTU bcZHIVETE",
  "1E008=bdEMLJA bcIZHE bdNI^%_IZHE bd bcDJ,VI bcKAKO bcLJUDIJE bcMYSLITE bcNASHI bc;U bcPOKOJI",
  "bcRITSI bcSLOVO bcTVRIDO bcUKU bcFRITU bcH,U 1E01B=bcSHTA bcTSI bcCHRIVI bcSHA bcY,U bfI bdA^",
  "1E023=bdU bcSM%L_YUS 1E026=bcYO bcIOTATED<M%L_YUS bcBIG_YUS bcIOTATE]BIG_YUS bcFITA",
  "1E100=aNYIAK[G_PUACHUE_HM;G_+TT,_MA beTSA beNTA beTA beHA beNA beXA beNKA beCA beLA beSA beZA",
  "beNCA bfTSA beKA beDA beNYA bfRA beVA beNTXA beTXA beFA beRA beQA beYA beNQA bePA beXYA beNPA",
  "beDLA beNPLA beHAH beMLA bePLA beGA beRRA beA bfA beI beU beO bfO beE bfE beW 1E130=xT;E-B bcM",
  "bcJ bcV bcS bcG bcD xSIGN_FOR_P,S; bgTH*G bgLOCA^; bg.IM% bg*V,TEBRATE bcXW_XW yYLLAB+_+NGTH[,",
  "1E140=xDIGIT_Z,O bd;E bdTWO beH~E bdFOUR beIVE bdSIX beEV[ bdE( bdN*E 1E14E=xLOGOGRAM_NYAJ",
  "xCIRC+]CA 1E290=aTOTO_+TT,_PA mBA mTA mDA mKA mGA mMA mNA nGA mSA mCHA mYA mWA mJA mHA mRA mLA",
  "mI mB~ATHY_I mIU mB~ATHY_IU mU mE mB~ATHY_E mEO mB~ATHY_EO mO mAE mB~ATHY_AE mA",
  "fSIGN_RIS*G_T;E 1E2C0=aW.CHO_+TT,_AA p oBA oCA oDA oGA oYA oPHA oLA oNA oPA oTA pHA oFA oSA",
  "pHA oJA oZA oWA oVA oKA oO oAU oRA oMA oKHA oHA oE oI oNGA oU oLLHA oTSA pRA o;G oA.G pNG o*G",
  "o; o[ oA. oNYA oU[ oYIH hT;E_TUP pNI mKOI pNI hDIGIT_Z,O n;E nTWO oH~E nFOUR oIVE nSIX oEV[",
  "nE( nN*E 1E2FF=hNGUN<IGN 1E7E0=aETHIOPIC<YLLAB+_HHYA vU vI vAA vEE w vO 1E7E8=sGURAGE_HHWA",
  "sHHWI vEE w 1E7ED=sGURAGE_MWI bbEE 1E7F0=zQWI bbEE bc zBWI bbEE zKWI bbEE bc zGWI bbEE bc zFWI",
  "bbEE zPWI bbEE 1E800=aM[DE_KIKAKUI<YLLAB+_M001_KI ba2_KA ba3_KU z65_KEE z95_KE z76_KOO z48_KO",
  "y179_KUA y004_WI ba5_WA ba6_WU y126_WEE z18_WE ba4_WOO y045_WO y194_WUI z43_WEI y061_WVI",
  "z49_WVA y139_WVE y007_M* ba8_M. ba9_MUN z59_M[ z94_M; y154_MU. z89_MU[ y010_BI ba1_BA ba2_BU",
  "y150_BEE y097_BE y103_BOO z38_BO y013_I ba4_A ba5_U y163_EE z00_E z65_OO z47_O z37_EI ba1_*",
  "ba5_* z95_. z78_[ y019<I z20<A ba1<U y162<EE z16<E z36<OO y079<O y196<IA y025_LI ba6_LA ba7_LU",
  "z84_+E z73_+ z54_LOO y153_LO z10_L;G_+ y016_DI ba7_DA ba8_DU z89_DEE y180_DOO ba1_DO y022_^",
  "ba3_TA ba4_TU z91_TEE z55_TE y104_TOO y069_TO z28_JI ba9_JA z30_JU y157_JEE z13_JE z60_JOO",
  "y063_JO y175_L;G_JO y031_YI ba2_YA ba3_YU y109_YEE y080_YE y141_YOO z21_YO y034_FI ba5_FA",
  "ba6_FU z78_FEE ba5_FE y133_FOO y088_FO y197_FUA z01_F. y037_N* ba8_N. ba9_NUN y117_N[ z69_N;",
  "z76_HI y041_HA y186_HU y040_HEE z96_HE z42_HOO y140_HO y083_HEEI y128_HOOU y053_H* y130_H.",
  "y087_HUN z52_H[ y193_H; y046_HU. z90_NGGI z43_NGGA z82_NGGU y115_NGGEE z46_NGGE z56_NGGOO",
  "z20_NGGO z59_NGGAA z27_NGGUA y086_L;G_NGGE y106_L;G_NGGOO z83_L;G_NGGO z55_GI z11_GA z68_GU",
  "z90_GEE z66_GUEI ba7_GU. z84_NG[ y057_NG; y177_NGU. y068_PI z99_PA z50_PU z81_PEE z51_PE",
  "y102_POO y066_PO y145_MBI y062_MBA y122_MBU y047_MBEE y188_MBEE y072_MBE y172_MBOO ba4_MBO",
  "z87_MBUU z61_L;G_MBE z05_L;G_MBOO z42_L;G_MBO z32_KPI y092_KPA z74_KPU z44_KPEE y108_KPE",
  "z12_KPOO z58_KPO z24_GBI y056_GBA y148_GBU y093_GBEE y107_GBE y071_GBOO ba0_GBO y171_RA",
  "z23_NDI ba9_NDA ba5_NDU z91_NDEE z19_NDE y067_NDOO ba4_NDO y152_NJA z92_NJU z49_NJEE z34_NJOO",
  "z82_VI ba5_VA z51_VU z73_VEE y085_VE y144_VOO y077_VO y164_NY* y058_NY. y170_NYUN y098_NY[",
  "z60_NY; 1E8C7=oDIGIT_;E uTWO vH~E uFOUR vIVE uSIX vEV[ uE( uN*E oCOMB**G_NUMB,_TE[S bhNS",
  "bfHUND~DS bfTHOUS.DS bg[_THOUS.DS bfHUND~]THOUS.DS bfMILLI;S 1E900=aADLAM_$%IF vDA%I vLAAM",
  "vMIIM vBA vS*NYIIYHE vPE vBHE vRA vE vFA vI vO vDHA vYHE vWAW vNUN vKAF vYA vU vJIIM vCHI vHA",
  "vQAAF vGA vNYA vTU vNHA vVA vKHA vGBE vZ% vKPO vSHA g@%IF tDA%I tLAAM tMIIM tBA tS*NYIIYHE tPE",
  "tBHE tRA tE tFA tI tO tDHA tYHE tWAW tNUN tKAF tYA tU tJIIM tCHI tHA tQAAF tGA tNYA tTU tNHA",
  "tVA tKHA tGBE tZ% tKPO tSHA g%IF_+NGTH[, gVOWEL_+NGTH[, gGEM*A^;_M&K gHAMZA gC;S;.T_MODIFI,",
  "gGEM*ATE_C;S;.T_MODIFI, gNUKTA hAS%IZA^;_M&K 1E950=gDIGIT_Z,O m;E mTWO nH~E mFOUR nIVE mSIX",
  "nEV[ mE( mN*E 1E95E=g*I^%_EXCLAMA^;_M&K oQUES^;_M&K 1EC71=a*DIC<IYAQ_NUMB,_;E tTWO uH~E tFOUR",
  "uIVE tSIX uEV[ tE( tN*E tT[ uW[TY uHIRTY tFORTY uIFTY tSIXTY uEV[TY tE(Y tN*ETY t;E_HUND~D",
  "tTWO_HUND~D uH~E_HUND~D tFOUR_HUND~D uIVE_HUND~D tSIX_HUND~D uEV[_HUND~D tE(_HUND~D",
  "tN*E_HUND~D t;E_THOUS.D tTWO_THOUS.D uH~E_THOUS.D tFOUR_THOUS.D uIVE_THOUS.D tSIX_THOUS.D",
  "uEV[_THOUS.D tE(_THOUS.D tN*E_THOUS.D tT[_THOUS.D uW[TY_THOUS.D uHIRTY_THOUS.D tFORTY_THOUS.D",
  "uIFTY_THOUS.D tSIXTY_THOUS.D uEV[TY_THOUS.D tE(Y_THOUS.D tN*ETY_THOUS.D tLAKH x. mLAKH_M&K",
  "mNUMB,_K&OR y. tP~FIXE];E bcTWO bdH~E bcFOUR bdIVE bcSIX bdEV[ bcE( bcN*E mPLACEHOLD,",
  "mFRAC^;_;E_QU&T, zH%F vTH~E_QU&T,S mRUPEE_M&K mNUMB,_%T,NATE_;E bdTWO be[_THOUS.D",
  "m%T,NATE_LAKH_M&K 1ED01=aOTTOM.<IYAQ_NUMB,_;E vTWO wH~E vFOUR wIVE vSIX wEV[ vE( vN*E vT[",
  "wW[TY wHIRTY vFORTY wIFTY vSIXTY wEV[TY vE(Y vN*ETY v;E_HUND~D vTWO_HUND~D wH~E_HUND~D",
  "vFOUR_HUND~D wIVE_HUND~D vSIX_HUND~D wEV[_HUND~D vE(_HUND~D vN*E_HUND~D v;E_THOUS.D",
  "vTWO_THOUS.D wH~E_THOUS.D vFOUR_THOUS.D wIVE_THOUS.D vSIX_THOUS.D wEV[_THOUS.D vE(_THOUS.D",
  "vN*E_THOUS.D vT[_THOUS.D wW[TY_THOUS.D wHIRTY_THOUS.D vFORTY_THOUS.D wIFTY_THOUS.D",
  "vSIXTY_THOUS.D wEV[TY_THOUS.D vE(Y_THOUS.D vN*ETY_THOUS.D oM&RAT. o%T,NATE_NUMB,_TWO bgH~E",
  "bfFOUR bgIVE bfSIX bgEV[ bfE( bfN*E bfT[ bfFOUR_HUND~D bfSIX_HUND~D bfTWO_THOUS.D bg[_THOUS.D",
  "oFRAC^;_;E_H%F bbSIXTH 1EE00=a&ABIC_MATHEMA^C%_%EF uBEH uJEEM uD% 1EE05=uWAW uZA* uHAH uTAH",
  "uYEH uKAF uLAM uMEEM uNO; uSE[ uA* uFEH uSAD uQAF u~H uSHE[ uTEH vHEH uKHAH uTH% uDAD uZAH",
  "uGHA* uDOT+SS_BEH bcNO; bcFEH bcQAF 1EE21=u*I^%_BEH bcJEEM 1EE24=bcHEH 1EE27=bdAH 1EE29=bcYEH",
  "bcKAF bcLAM bcMEEM bcNO; bcSE[ bcA* bcFEH bcSAD bcQAF 1EE34=bcSHE[ bcTEH bdHEH bcKHAH",
  "1EE39=bcDAD 1EE3B=bcGHA* 1EE42=uTAI+]JEEM 1EE47=bbHAH 1EE49=bbYEH 1EE4B=bbLAM 1EE4D=bbNO;",
  "bbSE[ bbA* 1EE51=bbSAD bbQAF 1EE54=bbSHE[ 1EE57=bbKHAH 1EE59=bbDAD 1EE5B=bbGHA*",
  "1EE5D=bbDOT+SS_NO; 1EE5F=bjQAF 1EE61=uST~TCHE]BEH beJEEM 1EE64=beHEH 1EE67=bfAH beTAH beYEH",
  "beKAF 1EE6C=beMEEM beNO; beSE[ beA* beFEH beSAD beQAF 1EE74=beSHE[ beTEH bfHEH beKHAH",
  "1EE79=beDAD beZAH beGHA* beDOT+SS_BEH 1EE7E=bmFEH 1EE80=uLOOPE]%EF bbBEH bbJEEM bbD% bbHEH",
  "bbWAW bbZA* bbHAH bbTAH bbYEH 1EE8B=bbLAM bbMEEM bbNO; bbSE[ bbA* bbFEH bbSAD bbQAF bb~H",
  "bbSHE[ bbTEH bcHEH bbKHAH bbTH% bbDAD bbZAH bbGHA* 1EEA1=uDOUB+-STRUCK_BEH biJEEM biD%",
  "1EEA5=biWAW biZA* biHAH biTAH biYEH 1EEAB=biLAM biMEEM biNO; biSE[ biA* biFEH biSAD biQAF bi~H",
  "biSHE[ biTEH bjHEH biKHAH biTH% biDAD biZAH biGHA* 1EEF0=uOP,ATOR_MEEM#HAH#TATWEEL bdHAH#D%",
  "1F000=aMAHJ;G_^+_EAST_W*D nSOUTH_W*D nWEST_W*D nNORTH_W*D n~]DRAG; nG~[_DRAG; nWHITE_DRAG;",
  "n;E_OF_CH&ACT,S nTWO_OF_CH&ACT,S oH~E_OF_CH&ACT,S nFOUR_OF_CH&ACT,S oIVE_OF_CH&ACT,S",
  "nSIX_OF_CH&ACT,S oEV[_OF_CH&ACT,S nE(_OF_CH&ACT,S nN*E_OF_CH&ACT,S n;E_OF_BAMBOOS",
  "nTWO_OF_BAMBOOS oH~E_OF_BAMBOOS nFOUR_OF_BAMBOOS oIVE_OF_BAMBOOS nSIX_OF_BAMBOOS",
  "oEV[_OF_BAMBOOS nE(_OF_BAMBOOS nN*E_OF_BAMBOOS n;E_OF_CIRC+S nTWO_OF_CIRC+S oH~E_OF_CIRC+S",
  "nFOUR_OF_CIRC+S oIVE_OF_CIRC+S nSIX_OF_CIRC+S oEV[_OF_CIRC+S nE(_OF_CIRC+S nN*E_OF_CIRC+S",
  "nPLUM nORCHID nBAMBOO nCHRYS.THEMUM nSPR*G oUMM, nAUTUMN nW*T, nJOK, nBACK",
  "1F030=aDOM*O_^+_HORIZ;T%_BACK w-00-00 bb1 bb2 bb3 bb4 bb5 bb6 y1-00 bb1 bb2 bb3 bb4 bb5 bb6",
  "y2-00 bb1 bb2 bb3 bb4 bb5 bb6 y3-00 bb1 bb2 bb3 bb4 bb5 bb6 y4-00 bb1 bb2 bb3 bb4 bb5 bb6"]

/-- Names from code point 1F054 on. -/
def namesFrom1F054 : List String := [
  "y5-00 bb1 bb2 bb3 bb4 bb5 bb6 y6-00 bb1 bb2 bb3 bb4 bb5 bb6 mV,^C%_BACK u-00-00 z1 z2 z3 z4 z5",
  "z6 w1-00 z1 z2 z3 z4 z5 z6 w2-00 z1 z2 z3 z4 z5 z6 w3-00 z1 z2 z3 z4 z5 z6 w4-00 z1 z2 z3 z4",
  "z5 z6 w5-00 z1 z2 z3 z4 z5 z6 w6-00 z1 z2 z3 z4 z5 z6 1F0A0=aPLAY*G_C&]BACK nACE_OF<PADES",
  "nTWO_OF<PADES oH~E_OF<PADES nFOUR_OF<PADES oIVE_OF<PADES nSIX_OF<PADES oEV[_OF<PADES",
  "nE(_OF<PADES nN*E_OF<PADES nT[_OF<PADES nJACK_OF<PADES nKN(_OF<PADES nQUE[_OF<PADES",
  "nK*G_OF<PADES 1F0B1=nACE_OF_HE&TS nTWO_OF_HE&TS oH~E_OF_HE&TS nFOUR_OF_HE&TS oIVE_OF_HE&TS",
  "nSIX_OF_HE&TS oEV[_OF_HE&TS nE(_OF_HE&TS nN*E_OF_HE&TS nT[_OF_HE&TS nJACK_OF_HE&TS",
  "nKN(_OF_HE&TS nQUE[_OF_HE&TS nK*G_OF_HE&TS n~]JOK, 1F0C1=nACE_OF_DIAM;DS nTWO_OF_DIAM;DS",
  "oH~E_OF_DIAM;DS nFOUR_OF_DIAM;DS oIVE_OF_DIAM;DS nSIX_OF_DIAM;DS oEV[_OF_DIAM;DS",
  "nE(_OF_DIAM;DS nN*E_OF_DIAM;DS nT[_OF_DIAM;DS nJACK_OF_DIAM;DS nKN(_OF_DIAM;DS",
  "nQUE[_OF_DIAM;DS nK*G_OF_DIAM;DS nBLACK_JOK, 1F0D1=nACE_OF_CLUBS nTWO_OF_CLUBS oH~E_OF_CLUBS",
  "nFOUR_OF_CLUBS oIVE_OF_CLUBS nSIX_OF_CLUBS oEV[_OF_CLUBS nE(_OF_CLUBS nN*E_OF_CLUBS",
  "nT[_OF_CLUBS nJACK_OF_CLUBS nKN(_OF_CLUBS nQUE[_OF_CLUBS nK*G_OF_CLUBS nWHITE_JOK, nFOOL",
  "nTRUMP-1 t2 t3 t4 t5 t6 t7 t8 t9 t10 u1 u2 u3 u4 u5 u6 u7 u8 u9 t20 u1",
  "1F100=aDIGIT_Z,O_FULL<TOP lCOMMA g;E_COMMA gTWO_COMMA hH~E_COMMA gFOUR_COMMA hIVE_COMMA",
  "gSIX_COMMA hEV[_COMMA gE(_COMMA gN*E_COMMA cNGBAT_CIRC+D<.S-S,IF_DIGIT_Z,O",
  "iNEGA^VE_CIRC+D<.S-S,IF_DIGIT_Z,O aCIRC+]Z,O#SLASH i.^CLOCKWISE: iDOLL&<IGN#OV,LAI]BACKSLASH",
  "aP&[THESIZE]LAT*_$A bjB bjC bjD bjE bjF bjG bjH bjI bjJ bjK bjL bjM bjN bjO bjP bjQ bjR bjS",
  "bjT bjU bjV bjW bjX bjY bjZ aTORTOISE<HELL_BRACKETE]LAT*_$S aCIRC+]IT%IC_LAT*_$C bkR iCD iWZ",
  "bOPY+FT<YMBOL aSQU&E]LAT*_$A bdB bdC bdD bdE bdF bdG bdH bdI bdJ bdK bdL bdM bdN bdO bdP bdQ",
  "bdR bdS bdT bdU bdV bdW bdX bdY bdZ iHV iMV iSD jS iPPV iWC aNEGA^VE_CIRC+]LAT*_$A bmB bmC bmD",
  "bmE bmF bmG bmH bmI bmJ bmK bmL bmM bmN bmO bmP bmQ bmR bmS bmT bmU bmV bmW bmX bmY bmZ",
  "aRAISE]MC<IGN iD<IGN iR<IGN aCIRC+]CC j#OV,LAI]BACKSLASH iHUM._FIGU~ aNEGA^VE<QU&E]LAT*_$A bmB",
  "bmC bmD bmE bmF bmG bmH bmI bmJ bmK bmL bmM bmN bmO bmP bmQ bmR bmS bmT bmU bmV bmW bmX bmY",
  "bmZ aCROSSE]NEGA^VE<QU&E]LAT*_$P aNEGA^VE<QU&E]IC rPA rSA rAB rWC aSQU&E_DJ g]CL jOOL iF~E iID",
  "iNEW jG iOK iSOS iUP#EXCLAMA^;_M&K iVS iTH~E_D iSEC;D<C~[ iTWO_K iFOUR_K iE(_K iFIVE_PO*T_;E",
  "iSEV[_PO*T_;E iTW[TY-TWO_PO*T_TWO iSIXTY_P i;E_HUND~]TW[TY_P iLAT*<M%!D iHC jDR jI-~S iLOSS+SS",
  "iSHV iUHD iVOD aMASK_WORK<YMBOL 1F1E6=a~GI;%_*DICATOR<YMBO!A bhB bhC bhD bhE bhF bhG bhH bhI",
  "bhJ bhK bhL bhM bhN bhO bhP bhQ bhR bhS bhT bhU bhV bhW bhX bhY bhZ aSQU&E_HIRAG.A_HOKA",
  "g]KATAK.A_KOKO rSA 1F210=iCJK_UNIFIE]IDEOGRAPH-624B be5B57 bf3CC iKATAK.A_DE",
  "iCJK_UNIFIE]IDEOGRAPH-4E8C be591A be89E3 be5929 be4EA4 be6620 be7121 be6599 be524D bfF8C bf18D",
  "be65B0 be521D be7D42 bf51F be8CA9 be58F0 bf439 be6F14 bf295 bf355 be4E00 bh9 be904A be5DE6",
  "be4E2D be53F3 be6307 be8D70 be6253 be7981 bfA7A be5408 be6E80 bf709 bh8 be7533 be5272 bf5B6",
  "be914D 1F240=aTORTOISE<HELL_BRACKETE]CJK_UNIFIE]IDEOGRAPH-672C bv4E09 bx8C bv5B89 bv70B9",
  "bv6253 bv76D7 bv52DD bv6557 1F250=aCIRC+]IDEOGRAPH_ADV.TAGE tCCEPT 1F260=aROUNDED<YMBOL_FOR_FU",
  "tLU tSHOU tXI tSHU.GXI tCAI 1F300=aCYCL;E aFOGGY aCLOSE]UMB~LLA aN(#ST&S aSUNRISE_OV,_MOUNTA*S",
  "h aCITYSCAPE_AT_DUSK aSUNSET_OV,_BUILD*GS aRA*BOW aBRIDGE_AT_N( aWAT,_WAVE aVOLC.O aMILKY_WAY",
  "aE&TH_GLOBE_EUROPE-AFRICA mAM,ICAS nSIA-AUSTR%IA aGLOBE#M,IDI.S aNEW_MO;<YMBOL",
  "aWAX*G_C~SC[T_MO;<YMBOL aFIRST_QU&T,_MO;<YMBOL aWAX*G_GIBBOUS_MO;<YMBOL aFULL_MO;<YMBOL",
  "aW.*G_GIBBOUS_MO;<YMBOL aLAST_QU&T,_MO;<YMBOL aW.*G_C~SC[T_MO;<YMBOL aC~SC[T_MO; aNEW_MO;#FACE",
  "aFIRST_QU&T,_MO;#FACE aLAST_QU&T,_MO;#FACE aFULL_MO;#FACE aSUN#FACE aGLOW*G<T& aSHOOT*G<T&",
  "aTH,MOMET, aBLACK_DROP+T aWHITE<UN j#SM%L_CLOUD kBEH*]CLOUD w#RA* aCLOUD#RA* lSNOW lL(N*G",
  "lTORNADO aFOG aW*]BLOW*G_FACE aHOT_DOG aTACO aBURRITO aCHESTNUT aSEEDL*G aEV,G~[_T~E",
  "aDECIDUOUS_T~E aP%M_T~E aCACTUS aHOT_PEPP, aTULIP aCH,RY_BLOSSOM aROSE aHIBISCUS aSUNFLOW,",
  "aBLOSSOM aE&_OF_MAIZE hRICE aH,B aFOUR_+AF_CLOV, aMAP+_+AF aF%+N_+AF a+AF_FLUTT,*G_*_W*D",
  "aMUSHROOM aTOMATO aAUB,G*E aGRAPES aMEL; aWAT,MEL; aT.G,*E a+M; aB..A aP*EAPP+ a~]APP+",
  "aG~[_APP+ aPE& dCH aCH,RIES aSTRAWB,RY aHAMBURG, aSLICE_OF_PIZZA aMEAT_;_B;E aPOULTRY_+G",
  "aRICE_CRACK, fB%L aCOOKE]RICE bURRY_.]RICE aSTEAM*G_BOWL bPAGHET^ aB~AD aFR[CH_FRIES",
  "aROASTED<WEET_POTATO aD.GO aOD[ aSUSHI aFRIED<HRIMP bISH_CAKE#SWIRL_DESIGN aSOFT_ICE_C~AM",
  "bHAVE]ICE aICE_C~AM aDOUGHNUT aCOOKIE bHOCOLATE_B& b.DY aLOLLIPOP aCUST&D aH;EY_POT aSHORTCAKE",
  "aB[TO_BOX aPOT_OF_FOOD aCOOK*G aFORK_.]KNIFE aTEACUP_WITHOUT_H.D+ aSAKE_BOTT+_.]CUP aW*E_GLASS",
  "aCOCKTAIL_GLASS aTROPIC%_DR*K aBE,_MUG aCL*K*G_BE,_MUGS aBABY_BOTT+ aFORK_.]KNIFE#PLATE",
  "aBOTT+#POPP*G_CORK aPOPCORN aRIBB; aWRAPPE]P~S[T aBIRTHDAY_CAKE aJACK-O-L.T,N aCHRISTMAS_T~E",
  "aFATH,_CHRISTMAS bI~WORKS i<P&K+R aB%LO; aP&TY_POPP, aC;FET^_B%L aT.ABATA_T~E aCROSSE]FLAGS",
  "aP*E_DECORA^; aJAP.ESE_DOLLS aC&P<T~AM, aW*]CHIME aMO;_VIEW*G_C,EM;Y aSCHOOL<ATCHEL",
  "aGRADUA^;_CAP aHE&T#^P_;_THE_+FT aBOUQUET_OF_FLOW,S aMILIT&Y_MED% a~M*D,_RIBB;",
  "aMUSIC%_KEYBO&D#JACKS aSTUDIO_MICROPH;E a+VEL<LID, aC;TROL_KNOBS aBEAME]ASC[D*G_MUSIC%_NOTES",
  "hDESC[D*G_MUSIC%_NOTES aFILM_FRAMES aADMISSI;_^CKETS aC&OUSEL_HORSE aF,RIS_WHEEL aROL+R_COAST,",
  "aFISH*G_PO+_.]FISH aMICROPH;E bOVIE_CAM,A aC*EMA aHEADPH;E a&^ST_P%ETTE aTOP_HAT aCIRCUS_T[T",
  "a^CKET aCLAPP,_BO&D aP,FORM*G_&TS aVIDEO_GAME aDI~CT_HIT aSLOT_MACH*E aBILLI&DS aGAME_DIE",
  "aBOWL*G aFLOW,_PLAY*G_C&DS aMUSIC%_NOTE cL^P+_MUSIC%_NOTES aSAXOPH;E aGUIT& aMUSIC%_KEYBO&D",
  "aTRUMPET aVIOL* aMUSIC%<CO~ aRUNN*G<HIRT#SASH aT[NIS_RACQUET_.]B%L aSKI_.D<KI_BOOT",
  "aBASKETB%L_.]HOOP aCHEQU,E]FLAG aSNOWBO&D, aRUNN, aSURF, bPORTS_MED% aTROPHY aHORSE_RAC*G",
  "aAM,IC._FOOTB%L aRUGBY_FOOTB%L aSWIMM, aWE(_LIFT, aGOLF, aRAC*G_MOTORCYC+ hC&",
  "aCRICKET_BAT_.]B%L aVOL+YB%L aFIEL]HOCKEY<^CK_.]B%L aICE_HOCKEY<^CK_.]PUCK",
  "aTAB+_T[NIS_PADD+_.]B%L aSNOW_CAPPE]MOUNTA* aCAMP*G aBEACH#UMB~LLA bUILD*G_C;STRUC^;",
  "aHOUSE_BUILD*GS aCITYSCAPE aD,ELICT_HOUSE_BUILD*G aCLASSIC%_BUILD*G aDES,T g_ISL.D aNA^;%_P&K",
  "aSTADIUM aHOUSE_BUILD*G gWITH_G&D[ aOFFICE_BUILD*G aJAP.ESE_POST_OFFICE aEUROPE._POST_OFFICE",
  "aHOSPIT% aB.K aAUTOMATE]TEL+R_MACH*E aHOTEL aLOVE_HOTEL aC;V[I[CE<TO~ aSCHOOL aDEP&TM[T<TO~",
  "aFACTORY aIZAKAYA_L.T,N aJAP.ESE_CAST+ aEUROPE._CAST+ aWHITE_P[N.T aBLACK_P[N.T",
  "aWAV*G_WHITE_FLAG hBLACK_FLAG aROSETTE aBLACK_ROSETTE aLABEL aBADM*T;_RACQUET_.D<HUTT+COCK",
  "bOW_.D: aAMPHORA aEMOJI_MODIFI,_FITZPATRICK_TYPE-1-2 bg3 bg4 bg5 bg6 aRAT aMOUSE aOX",
  "aWAT,_BUFF%O aCOW a^G, a+OP&D aRABBIT aCAT aDRAG; aCROCODI+ aWH%E aSNAIL dKE aHORSE aRAM aGOAT",
  "aSHEEP aM;KEY aROOST, aCHICK[ aDOG aPIG aBO& aE+PH.T aOCTOPUS aSPIR%<HELL aBUG a.T aH;EYBEE",
  "aLADY_BEET+ aFISH aTROPIC%_FISH aBLOWFISH aTURT+ aHATCH*G_CHICK aBABY_CHICK",
  "aFR;T-FAC*G_BABY_CHICK aBIRD aP[GU* aKO%A aPOOD+ aDROMED&Y_CAMEL aBACTRI._CAMEL aDOLPH*",
  "aMOUSE_FACE aCOW_FACE a^G,_FACE aRABBIT_FACE aCAT_FACE aDRAG;_FACE aSPOUT*G_WH%E aHORSE_FACE",
  "aM;KEY_FACE aDOG_FACE aPIG_FACE aFROG_FACE aHAMST,_FACE aWOLF_FACE aBE&_FACE aP.DA_FACE",
  "bIG_NOSE bAW_PR*TS aCHIPMUNK aEYES d b& aNOSE aMOUTH aT;GUE aWHITE_UP_PO*T*G_BACKH.]*DEX",
  "gDOWN_PO*T*G_BACKH.]*DEX g+FT_PO*T*G_BACKH.]*DEX gR(_PO*T*G_BACKH.]*DEX aFISTE]H.D<IGN",
  "aWAV*G_H.D<IGN aOK_H.D<IGN aTHUMBS_UP<IGN hDOWN<IGN aCLAPP*G_H.DS<IGN aOP[_H.DS<IGN aCROWN",
  "aWOM.S_HAT aEYEGLASSES aNECK^E aT-SHIRT aJE.S aD~SS aKIM;O aBIK*I aWOM.S_CLOTHES aPURSE",
  "aH.DBAG aPOUCH aM.S<HOE aATH+^C<HOE aHIGH-HEE+D<HOE aWOM.S<.D% hBOOTS aFOOTPR*TS",
  "aBUST_*<ILHOUETTE eS_*<ILHOUETTE bOY aGIRL aM. aWOM. aFAMILY aM._.]WOM._HOLD*G_H.DS",
  "aTWO_M[_HOLD*G_H.DS eWOM[_HOLD*G_H.DS aPOLICE_OFFIC, aWOM.#BUNNY_E&S aBRIDE#VEIL",
  "aP,S;#BL;]HAIR aM.#GUA_PI_MAO jTURB. aOLD,_M. gWOM. aBABY aC;STRUC^;_WORK, aPR*CESS",
  "aJAP.ESE_OG~ jGOBL* aGHOST aBABY_.GEL aEXTRAT,~STRI%_%I[ a%I[_M;ST, aIMP aSKULL",
  "a*FORMA^;_DESK_P,S; aGU&DSM. aD.C, aLIPS^CK aNAIL_POLISH aFACE_MASSAGE aHAIRCUT aB&B,_PO+",
  "aSYR*GE aPILL aKISS_M&K aLOVE_+TT, aR*G aGEM<T;E aKISS aBOUQUET aCOUP+#HE&T aWEDD*G",
  "aBEAT*G_HE&T bROK[_HE&T aTWO_HE&TS aSP&KL*G_HE&T aGROW*G_HE&T aHE&T#&ROW aBLUE_HE&T aG~[_HE&T",
  "aYELLOW_HE&T aPURP+_HE&T aHE&T#RIBB; a~VOLV*G_HE&TS aHE&T_DECORA^; aDIAM;D<HAPE#A_DOT_*SIDE",
  "aE+CTRIC_L(_BULB a.G,<YMBOL aBOMB aS+EP*G<YMBOL aCOLLISI;<YMBOL aSPLASH*G<WEAT<YMBOL aDROP+T",
  "bASH<YMBOL aPI+_OF_POO aF+XE]BICEPS aDIZZY<YMBOL aSPEECH_B%LO; aTHOUGHT_B%LO; aWHITE_FLOW,",
  "aHUND~]PO*TS<YMBOL aM;EY_BAG aCURR[CY_EXCH.GE aHEAVY_DOLL&<IGN aC~DIT_C&D aB.KNOTE#Y[<IGN",
  "oDOLL&<IGN oEURO<IGN oPOUND<IGN aM;EY#W*GS aCH&T#UP|_TR[].]Y[<IGN aSEAT aP,S;%_COMPUT,",
  "aBRIEFCASE aM*IDISC aFLOPPY_DISK aOP^C%_DISC aDVD aFI+_FOLD, aOP[_FI+_FOLD, aPAGE#CURL",
  "fFAC*G_UP aC%[D& aTE&-OFF_C%[D& aC&]*DEX bH&T#UP|_TR[D lDOWN|_TR[D aB&_CH&T aCLIPBO&D aPUSHP*",
  "aROUN]PUSHP* aPAP,CLIP aSTRA(_RU+R aTRI.GUL&_RU+R aBOOKM&K_TABS a+DG, aNOTEBOOK",
  "i#DECORA^VE_COV, aCLOSE]BOOK aOP[_BOOK aG~[_BOOK aBLUE_BOOK aOR.GE_BOOK aBOOKS aNAME_BADGE",
  "aSCROLL aMEMO aTE+PH;E_~CEIV, aPAG, aFAX_MACH*E aSATELLITE_.T[NA aPUBLIC_ADD~SS_LOUDSPEAK,",
  "aCHE,*G_MEGAPH;E aOUTBOX_TRAY a*BOX_TRAY aPACKAGE aE-MAIL<YMBOL a*COM*G_[VELOPE",
  "a[VELOPE#DOWN|:? aCLOSE]MAILBOX#LOW,E]FLAG uRAISE]FLAG aOP[_MAILBOX#RAISE]FLAG sLOW,E]FLAG",
  "aPOSTBOX e%_HORN aNEWSPAP, aMOBI+_PH;E m#R(|:_AT_+FT aVIBRA^;_MODE aMOBI+_PH;E_OFF",
  "aNO_MOBI+_PH;ES a.T[NA#B&S aCAM,A g#FLASH aVIDEO_CAM,A aTE+VISI; aRADIO aVIDEOCASSETTE",
  "aFILM_PROJECTOR aPORTAB+<T,EO bRAY,_BEADS aTWISTE]R(|:S aCLOCKWISE_R(|_.]+FT|_OP[_CIRC+:S",
  "cb#CIRC+];E_OV,LAY kDOWN|_.]UP|_OP[_CIRC+:S a.^CLOCKWISE_DOWN|_.]UP|_OP[_CIRC+:S",
  "aLOW_BR(NESS<YMBOL aHIGH_BR(NESS<YMBOL aSPEAK,#C.CELLA^;<TROKE h h#;E<OUN]WAVE nTH~E<OUN]WAVES",
  "aBATT,Y aE+CTRIC_PLUG a+FT-PO*T*G_MAGNIFY*G_GLASS aR(-PO*T*G_MAGNIFY*G_GLASS aLOCK#*K_P[",
  "aCLOSE]LOCK#KEY aKEY aLOCK aOP[_LOCK aBELL e#C.CELLA^;<TROKE bOOKM&K aL*K<YMBOL aRADIO_BUTT;",
  "aBACK#+FT|:? a[D#+FT|:? a;#EXCLAMA^;_M&K#+FT_R(:? aSO;#R(|:? aTOP#UP|:? aNO_;E_UND,_E(E[<YMBOL",
  "aKEYCAP_T[ a*PUT<YMBOL_FOR_LAT*_CAPIT%_+TT,S xSM%L_+TT,S rNUMB,S rSYMBOLS rLAT*_+TT,S aFI~",
  "aE+CTRIC_TORCH aWR[CH aHAMM, aNUT_.]BOLT aHOCHO aPISTOL aMICROSCOPE aTE+SCOPE aCRYST%_B%L",
  "aSIX_PO*TED<T&#MIDD+_DOT aJAP.ESE<YMBOL_FOR_BEG*N, aTRID[T_EMB+M aBLACK<QU&E_BUTT;",
  "aWHITE<QU&E_BUTT; aL&GE_~]CIRC+ gBLUE_CIRC+ gOR.GE_DIAM;D gBLUE_DIAM;D aSM%L_OR.GE_DIAM;D",
  "gBLUE_DIAM;D aUP-PO*T*G_~]TRI.G+ aDOWN-PO*T*G_~]TRI.G+ aUP-PO*T*G<M%L_~]TRI.G+",
  "aDOWN-PO*T*G<M%L_~]TRI.G+ aLOW,_R(<HADOWE]WHITE_CIRC+ aUPP,_R(<HADOWE]WHITE_CIRC+",
  "aCIRC+]CROSS_POMMEE bROSS_POMMEE#H%F-CIRC+_BELOW m aNOTCHE]+FT<EMICIRC+#TH~E_DOTS",
  "iR(<EMICIRC+#TH~E_DOTS aSYMBOL_FOR_M&KS_CHAPT, aWHITE_LAT*_CROSS aHEAVY_LAT*_CROSS",
  "aCEL^C_CROSS aOM<YMBOL aDOVE_OF_PEACE aKAABA aMOSQUE aSYNAGOGUE aM[ORAH#N*E_BR.CHES",
  "aBOWL_OF_HYGIEIA aCLOCK_FACE_;E_OCLOCK lTWO_OCLOCK mH~E_OCLOCK lFOUR_OCLOCK mIVE_OCLOCK",
  "lSIX_OCLOCK mEV[_OCLOCK lE(_OCLOCK lN*E_OCLOCK lT[_OCLOCK lE+V[_OCLOCK lTWELVE_OCLOCK",
  "l;E-THIRTY lTWO-THIRTY mH~E-THIRTY lFOUR-THIRTY mIVE-THIRTY lSIX-THIRTY mEV[-THIRTY lE(-THIRTY",
  "lN*E-THIRTY lT[-THIRTY lE+V[-THIRTY lTWELVE-THIRTY aR(<PEAK, n#;E<OUN]WAVE tTH~E<OUN]WAVES",
  "aBULLHORN i#SOUN]WAVES aR*G*G_BELL aBOOK aC.D+ aM.TELPIECE_CLOCK aBLACK<KULL_.]CROSSB;ES",
  "aNO_PIRACY aHO+ aM._*_BUS*ESS<UIT_+VITAT*G aS+UTH_OR<PY aD&K<UNGLASSES aSPID, g_WEB aJOYS^CK",
  "aM._D.C*G a+FT_H.]TE+PH;E_~CEIV, aTE+PH;E_~CEIV,#PAGE aR(_H.]TE+PH;E_~CEIV,",
  "aWHITE_TOUCHT;E_TE+PH;E aBLACK_TOUCHT;E_TE+PH;E aTE+PH;E_;_TOP_OF_MODEM aCLAMSHELL_MOBI+_PH;E",
  "aBACK_OF_[VELOPE aSTAMPE][VELOPE a[VELOPE#L(N*G aFLY*G_[VELOPE aP[_OV,<TAMPE][VELOPE",
  "aL*KE]PAP,CLIPS aBLACK_PUSHP* aLOW,_+FT_P[CIL lB%LPO*T_P[ lFOUNTA*_P[ lPA*TBRUSH lCRAY;",
  "bEFT_WRIT*G_H.D aTURNE]OK_H.D<IGN aRAISE]H.D#F*G,S<PLAYED bEV,SE]RAISE]H.D#F*G,S<PLAYED",
  "jTHUMBS_UP<IGN qDOWN<IGN jVICTORY_H.D jH.D#MIDD+_F*G,_EXT[DED",
  "bAISE]H.D#P&T_BETWE[_MIDD+_.]R*G_F*G,S aWHITE_DOWN_PO*T*G_+FT_H.]*DEX",
  "aSIDEWAYS_WHITE_+FT_PO*T*G_*DEX pR(_PO*T*G_*DEX jBLACK_+FT_PO*T*G_*DEX pR(_PO*T*G_*DEX",
  "aBLACK_+FT_PO*T*G_BACKH.]*DEX gR(_PO*T*G_BACKH.]*DEX aSIDEWAYS_WHITE_UP_PO*T*G_*DEX",
  "pDOWN_PO*T*G_*DEX jBLACK_UP_PO*T*G_*DEX pDOWN_PO*T*G_*DEX aBLACK_UP_PO*T*G_BACKH.]*DEX",
  "gDOWN_PO*T*G_BACKH.]*DEX gHE&T aDESKTOP_COMPUT, aKEYBO&].]MOUSE aTH~E_NETWORKE]COMPUT,S aPR*T,",
  "bOCKET_C%CULATOR aBLACK_H&D<HELL_FLOPPY_DISK aWHITE_H&D<HELL_FLOPPY_DISK",
  "aSOFT<HELL_FLOPPY_DISK aTAPE_C&TRIDGE aWI~]KEYBO&D a;E_BUTT;_MOUSE aTWO_BUTT;_MOUSE",
  "bH~E_BUTT;_MOUSE bRACKB%L aOL]P,S;%_COMPUT, aH&]DISK aSC~[ aPR*T,_IC; aFAX_IC; aOP^C%_DISC_IC;",
  "aDOCUM[T#TEXT s_.]PICTU~ oPICTU~ aFRAME#PICTU~ l^+S l._X aBLACK_FOLD, aFOLD, aOP[_FOLD,",
  "aC&]*DEX_DIVID,S fFI+_BOX aFI+_CAB*ET aEMPTY_NOTE k_PAGE nD aNOTE e_PAGE hD aEMPTY_DOCUM[T",
  "gPAGE kS aDOCUM[T aPAGE eS aWASTEBASKET aSPIR%_NOTE_PAD hC%[D&_PAD aDESKTOP_W*DOW aM*IMIZE",
  "bAXIMIZE aOV,LAP aCLOCKWISE_R(_.]+FT<EMICIRC+:S b.CELLA^;_X a*C~ASE_F;T<IZE<YMBOL",
  "aDEC~ASE_F;T<IZE<YMBOL aCOMP~SSI; aOL]KEY aROL+D-UP_NEWSPAP, aPAGE#CIRC+]TEXT aSTOCK_CH&T",
  "aDAGG,_KNIFE aLIPS aSPEAK*G_HEA]*<ILHOUETTE aTH~E_RAYS? lBELOW l+FT lR( a+FT<PEECH_BUBB+",
  "aR(<PEECH_BUBB+ aTWO<PEECH_BUBB+S bH~E<PEECH_BUBB+S a+FT_THOUGHT_BUBB+ aR(_THOUGHT_BUBB+",
  "a+FT_.G,_BUBB+ aR(_.G,_BUBB+ aMOO]BUBB+ aL(N*G_MOO]BUBB+ o aB%LOT_BOX#B%LOT hSCRIPT_X",
  "hBOX#SCRIPT_X jLD<CRIPT_X jX#BOLD<CRIPT_X aL(_CHECK_M&K aB%LOT_BOX#BOL]CHECK aWORL]MAP",
  "aMOUNT_FUJI aTOKYO_TOW, aSTATUE_OF_LIB,TY bILHOUETTE_OF_JAP. aMOYAI aGR*N*G_FACE n#SMIL*G_EYES",
  "aFACE#TE&S_OF_JOY aSMIL*G_FACE#OP[_MOUTH bc_.D<MIL*G_EYES bhCOLD<WEAT bhT(LY-CLOSE]EYES sH%O",
  "tORNS aW*K*G_FACE aSMIL*G_FACE#SMIL*G_EYES aFACE<AVOUR*G_DELICIOUS_FOOD a~LIEVE]FACE",
  "aSMIL*G_FACE#HE&T-SHAPE]EYES sSUNGLASSES dRK*G_FACE aNEUTR%_FACE aEXP~SSI;+SS_FACE",
  "aUNAMUSE]FACE aFACE#COLD<WEAT aP[SIVE_FACE aC;FUSE]FACE eOUNDE]FACE aKISS*G_FACE",
  "aFACE_THROW*G_A_KISS aKISS*G_FACE#SMIL*G_EYES sCLOSE]EYES aFACE#STUCK-OUT_T;GUE ba_.]W*K*G_EYE",
  "bfT(LY-CLOSE]EYES aDISAPPO*TE]FACE aWORRIE]FACE a.GRY_FACE aPOUT*G_FACE aCRY*G_FACE",
  "aP,SEV,*G_FACE aFACE#LOOK_OF_TRIUMPH aDISAPPO*TE]BUT_~LIEVE]FACE aFROWN*G_FACE#OP[_MOUTH",
  "a.GUISHE]FACE aFE&FUL_FACE aWE&Y_FACE aS+EPY_FACE a^~]FACE aGRIMAC*G_FACE aLOUDLY_CRY*G_FACE",
  "aFACE#OP[_MOUTH aHUSHE]FACE aFACE#OP[_MOUTH_.]COLD<WEAT fSC~AM*G_*_FE& aAST;ISHE]FACE",
  "aFLUSHE]FACE aS+EP*G_FACE aDIZZY_FACE aFACE_WITHOUT_MOUTH j_MEDIC%_MASK",
  "aGR*N*G_CAT_FACE#SMIL*G_EYES aCAT_FACE#TE&S_OF_JOY aSMIL*G_CAT_FACE#OP[_MOUTH wHE&T-SHAPE]EYES",
  "aCAT_FACE#WRY<MI+ aKISS*G_CAT_FACE#CLOSE]EYES aPOUT*G_CAT_FACE aCRY*G_CAT_FACE aWE&Y_CAT_FACE",
  "aSL(LY_FROWN*G_FACE jSMIL*G_FACE aUPSIDE-DOWN_FACE aFACE#ROLL*G_EYES kNO_GOO]GESTU~ kOK_GESTU~",
  "aP,S;_BOW*G_DEEPLY aSEE-NO-EVIL_M;KEY aHE&-NO-EVIL_M;KEY aSPEAK-NO-EVIL_M;KEY",
  "aHAPPY_P,S;_RAIS*G_;E_H.D aP,S;_RAIS*G_BOTH_H.DS_*_CE+BRA^; hFROWN*G hWITH_POUT*G_FACE",
  "mFOLDE]H.DS aNORTH_WEST_PO*T*G_+AF aSOUTH_WEST_PO*T*G_+AF aNORTH_EAST_PO*T*G_+AF",
  "aSOUTH_EAST_PO*T*G_+AF aTURNE]NORTH_WEST_PO*T*G_+AF hSOUTH_WEST_PO*T*G_+AF",
  "hNORTH_EAST_PO*T*G_+AF hSOUTH_EAST_PO*T*G_+AF aNORTH_WEST_PO*T*G_V*E_+AF",
  "aSOUTH_WEST_PO*T*G_V*E_+AF aNORTH_EAST_PO*T*G_V*E_+AF aSOUTH_EAST_PO*T*G_V*E_+AF",
  "aHEAVY_NORTH_WEST_PO*T*G_V*E_+AF gSOUTH_WEST_PO*T*G_V*E_+AF gNORTH_EAST_PO*T*G_V*E_+AF",
  "gSOUTH_EAST_PO*T*G_V*E_+AF aNORTH_WEST_PO*T*G_BUD aSOUTH_WEST_PO*T*G_BUD",
  "aNORTH_EAST_PO*T*G_BUD aSOUTH_EAST_PO*T*G_BUD aHEAVY_NORTH_WEST_PO*T*G_BUD",
  "gSOUTH_WEST_PO*T*G_BUD gNORTH_EAST_PO*T*G_BUD gSOUTH_EAST_PO*T*G_BUD bOLLOW_QUILT<QU&E_ORNAM[T",
  "bc_*_BLACK<QU&E aSOLI]QUILT<QU&E_ORNAM[T bb_*_BLACK<QU&E a+FT|_ROCKET aUP|_ROCKET aR(|_ROCKET",
  "aDOWN|_ROCKET aSCRIPT_LIGATU~_ET_ORNAM[T aHEAVY<CRIPT_LIGATU~_ET_ORNAM[T",
  "aLIGATU~_OP[_ET_ORNAM[T aHEAVY_LIGATU~_OP[_ET_ORNAM[T gAMP,S.]ORNAM[T aSWASH_AMP,S.]ORNAM[T",
  "b.S-S,IF_HEAVY_DOUB+_TURNE]COMMA_QUOTA^;_M&K_ORNAM[T yCOMMA_QUOTA^;_M&K_ORNAM[T",
  "rLOW_DOUB+_COMMA_QUOTA^;_M&K_ORNAM[T aHEAVY_*T,ROB.G_ORNAM[T aS.S-S,IF_*T,ROB.G_ORNAM[T",
  "aHEAVY<.S-S,IF_*T,ROB.G_ORNAM[T aV,Y_HEAVY<OLIDUS l~V,SE<OLIDUS aCHECK,_BO&D",
  "a~V,SE_CHECK,_BO&D bOCKET aHELICOPT, aSTEAM_LOCOMO^VE aRAILWAY_C& aHIGH-SPEE]TRA* q#BUL+T_NOSE",
  "aTRA* aMETRO aL(_RAIL aSTA^; aTRAM e_C& aBUS a;COM*G_BUS aTROL+YBUS aBUS<TOP aM*IBUS aAMBUL.CE",
  "aFI~_[G*E aPOLICE_C& a;COM*G_POLICE_C& aTAXI a;COM*G_TAXI aAUTOMOBI+ a;COM*G_AUTOMOBI+",
  "a~C~A^;%_VEHIC+ aDELIV,Y_TRUCK a&^CULATE]LORRY aTRACTOR aM;ORAIL cUNTA*_RAILWAY",
  "aSUSP[SI;_RAILWAY aMOUNTA*_CAB+WAY aA,I%_TRAMWAY aSHIP aROWBOAT aSPEEDBOAT",
  "aHORIZ;T%_TRAFFIC_L( aV,^C%_TRAFFIC_L( aC;STRUC^;<IGN aPOLICE_C&S_~VOLV*G_L(",
  "aTRI.GUL&_FLAG_;_POST aDOOR aNO_[TRY<IGN aSMOK*G<YMBOL aNO<MOK*G<YMBOL",
  "aPUT_LITT,_*_ITS_PLACE<YMBOL aDO_NOT_LITT,<YMBOL aPOTAB+_WAT,<YMBOL aN;-POTAB+_WAT,<YMBOL",
  "aBICYC+ aNO_BICYC+S aBICYCLIST aMOUNTA*_BICYCLIST aPEDESTRI. aNO_PEDESTRI.S aCHILDR[_CROSS*G",
  "aM[S<YMBOL aWOM[S<YMBOL a~STROOM aBABY<YMBOL aTOI+T aWAT,_CLOSET aSHOW, aBATH eTUB",
  "aPASSPORT_C;TROL aCUSTOMS aBAGGAGE_CLAIM a+FT_LUGGAGE aTRI.G+#ROUNDE]CORN,S aPROHIBITED<IGN",
  "aCIRC+]*FORMA^;<OURCE aBOYS<YMBOL aGIRLS<YMBOL aCOUCH_.]LAMP aS+EP*G_ACCOMMODA^; bHOPP*G_BAGS",
  "aBELLHOP_BELL cD aPLACE_OF_WORSHIP aOCTAG;%<IGN aSHOPP*G_TROL+Y bTUPA aPAGODA aH*DU_TEMP+ bUT",
  "aE+VATOR 1F6DD=aPLAYGROUND<LIDE aWHEEL aR*G_BUOY aHAMM,_.]WR[CH aSHIELD aOIL_DRUM aMOTORWAY",
  "aRAILWAY_TRACK aMOTOR_BOAT aUP-PO*T*G_MILIT&Y_AIRPL.E mAIRPL.E mSM%L_AIRPL.E aSM%L_AIRPL.E",
  "aNORTHEAST-PO*T*G_AIRPL.E aAIRPL.E_DEP&TU~ j&RIV*G 1F6F0=aSATELLITE a;COM*G_FI~_[G*E",
  "aDIESEL_LOCOMO^VE aPASS[G,<HIP aSCOOT, aMOTOR<COOT, aC.OE aS+D aFLY*G<AUC, aSKATEBO&D",
  "aAUTO_RICKSHAW aPICKUP_TRUCK aROL+R<KATE 1F700=a%CHEMIC%<YMBOL_FOR_QU*TESS[CE wAIR wFI~ wE&TH",
  "wWAT, wAQUAFOR^S ba_~GIA bg-2 bbVITAE bg-2 wV*EG& bd-2 be3 wSULFUR wPHILOSOPH,S<ULFUR",
  "wBLACK<ULFUR wM,CURY<UBLIMATE bn-2 bo3 wC*NAB& wS%T wNIT~ wVITRIOL bd-2 wROCK<%T bf-2 wGOLD",
  "wSILV, wIR;_O~ be-2 wCROCUS_OF_IR; w~GULUS_OF_IR; wCOPP,_O~ wIR;-COPP,_O~ wSUBLIMATE_OF_COPP,",
  "wCROCUS_OF_COPP, bm-2 xOPP,_.^M;IATE wS%T_OF_COPP,_.^M;IATE xUBLIMATE_OF<%T_OF_COPP, wV,DIGRIS",
  "wT*_O~ w+A]O~ w.^M;Y_O~ wSUBLIMATE_OF_.^M;Y x%T_OF_.^M;Y xUBLIMATE_OF<%T_OF_.^M;Y",
  "wV*EG&_OF_.^M;Y w~GULUS_OF_.^M;Y bp-2 bd bd-2 be3 be4 w%K%I bc-2 wM&CASITE wS%-AMM;IAC w&S[IC",
  "w~%G& bd-2 wAURIPIGM[T wBISMUTH_O~ wT&T& bc-2 wQUICK_LIME wBORAX bb-2 bc3 w%UM wOIL wSPIRIT",
  "wT*CTU~ wGUM wWAX wPOWD, wC%X wTUTTY wCAPUT_MORTUUM wSCEPT,_OF_JOVE wCADUCEUS wTRID[T",
  "wST&~]TRID[T wLODEST;E wSOAP wUR*E wHORSE_DUNG wASHES wPOT_ASHES wBRICK wPOWD,E]BRICK wAM%GAM",
  "wSTRATUM<UP,<TRATUM br-2 xUBLIMA^; wP~CIPITATE wDIS^LL zSOLVE be-2 wPURIFY yT~FAC^; wCRUCIB+",
  "be-2 bf3 bf4 bf5 w%EMBIC wBATH_OF_M&Y beVAPOURS w~TORT wHOUR wN( wDAY-N( wM;TH wH%F_DRAM",
  "bbOUNCE 1F780=aBLACK_+FT-PO*T*G_ISOSCE+S_R(_TRI.G+ gUP-PO*T*G_ISOSCE+S_R(_TRI.G+",
  "gR(-PO*T*G_ISOSCE+S_R(_TRI.G+ gDOWN-PO*T*G_ISOSCE+S_R(_TRI.G+ gSL(LY<M%L_CIRC+",
  "aMEDIUM_BOL]WHITE_CIRC+ aBOL]WHITE_CIRC+ aHEAVY_WHITE_CIRC+ aV,Y_HEAVY_WHITE_CIRC+",
  "aEXT~MELY_HEAVY_WHITE_CIRC+ aWHITE_CIRC+_C;TA**G_BLACK<M%L_CIRC+ aROUN]T&GET aBLACK_T*Y<QU&E",
  "gSL(LY<M%L<QU&E aL(_WHITE<QU&E aMEDIUM_WHITE<QU&E aBOL]WHITE<QU&E aHEAVY_WHITE<QU&E",
  "aV,Y_HEAVY_WHITE<QU&E aEXT~MELY_HEAVY_WHITE<QU&E aWHITE<QU&E_C;TA**G_BLACK_V,Y<M%L<QU&E",
  "beMEDIUM<QU&E aSQU&E_T&GET aBLACK_T*Y_DIAM;D gV,Y<M%L_DIAM;D gMEDIUM<M%L_DIAM;D",
  "aWHITE_DIAM;]C;TA**G_BLACK_V,Y<M%L_DIAM;D bfMEDIUM_DIAM;D aDIAM;]T&GET aBLACK_T*Y_LOZ[GE",
  "gV,Y<M%L_LOZ[GE gMEDIUM<M%L_LOZ[GE aWHITE_LOZ[GE_C;TA**G_BLACK<M%L_LOZ[GE aTH*_G~EK_CROSS",
  "aL(_G~EK_CROSS aMEDIUM_G~EK_CROSS aBOL]G~EK_CROSS aV,Y_BOL]G~EK_CROSS fHEAVY_G~EK_CROSS",
  "aEXT~MELY_HEAVY_G~EK_CROSS aTH*<%^~ aL(<%^~ aMEDIUM<%^~ aBOLD<%^~ aHEAVY<%^~ aV,Y_HEAVY<%^~",
  "aEXT~MELY_HEAVY<%^~ aL(_FIVE<POKE]AST,ISK aMEDIUM_FIVE<POKE]AST,ISK aBOL]FIVE<POKE]AST,ISK",
  "aHEAVY_FIVE<POKE]AST,ISK aV,Y_HEAVY_FIVE<POKE]AST,ISK aEXT~MELY_HEAVY_FIVE<POKE]AST,ISK",
  "aL(<IX<POKE]AST,ISK aMEDIUM<IX<POKE]AST,ISK aBOLD<IX<POKE]AST,ISK aHEAVY<IX<POKE]AST,ISK",
  "aV,Y_HEAVY<IX<POKE]AST,ISK aEXT~MELY_HEAVY<IX<POKE]AST,ISK aL(_E(<POKE]AST,ISK",
  "aMEDIUM_E(<POKE]AST,ISK aBOL]E(<POKE]AST,ISK aHEAVY_E(<POKE]AST,ISK aV,Y_HEAVY_E(<POKE]AST,ISK",
  "aL(_TH~E_PO*TE]BLACK<T& aMEDIUM_TH~E_PO*TE]BLACK<T& aTH~E_PO*TE]BLACK<T&",
  "aMEDIUM_TH~E_PO*TE]P*WHEEL<T& aL(_FOUR_PO*TE]BLACK<T& aMEDIUM_FOUR_PO*TE]BLACK<T&",
  "aFOUR_PO*TE]BLACK<T& aMEDIUM_FOUR_PO*TE]P*WHEEL<T& a~V,SE_L(_FOUR_PO*TE]P*WHEEL<T&",
  "aL(_FIVE_PO*TE]BLACK<T& aHEAVY_FIVE_PO*TE]BLACK<T& aMEDIUM<IX_PO*TE]BLACK<T&",
  "aHEAVY<IX_PO*TE]BLACK<T& aSIX_PO*TE]P*WHEEL<T& aMEDIUM_E(_PO*TE]BLACK<T&",
  "aHEAVY_E(_PO*TE]BLACK<T& aV,Y_HEAVY_E(_PO*TE]BLACK<T& aHEAVY_E(_PO*TE]P*WHEEL<T&",
  "aL(_TWELVE_PO*TE]BLACK<T& aHEAVY_TWELVE_PO*TE]BLACK<T& vP*WHEEL<T& aCIRC+]TRI.G+",
  "aNEGA^VE_CIRC+]TRI.G+ aCIRC+D<QU&E aNEGA^VE_CIRC+D<QU&E 1F7E0=aL&GE_OR.GE_CIRC+ gYELLOW_CIRC+",
  "gG~[_CIRC+ gPURP+_CIRC+ gBROWN_CIRC+ g~D<QU&E gBLUE<QU&E gOR.GE<QU&E gYELLOW<QU&E gG~[<QU&E",
  "gPURP+<QU&E gBROWN<QU&E 1F7F0=aHEAVY_EQU%S<IGN 1F800=a+FT|:#SM%L_TRI.G+:HEAD",
  "aUP|:#SM%L_TRI.G+:HEAD aR(|:#SM%L_TRI.G+:HEAD aDOWN|:#SM%L_TRI.G+:HEAD",
  "a+FT|:#MEDIUM_TRI.G+:HEAD aUP|:#MEDIUM_TRI.G+:HEAD aR(|:#MEDIUM_TRI.G+:HEAD",
  "aDOWN|:#MEDIUM_TRI.G+:HEAD a+FT|:#L&GE_TRI.G+:HEAD aUP|:#L&GE_TRI.G+:HEAD",
  "aR(|:#L&GE_TRI.G+:HEAD aDOWN|:#L&GE_TRI.G+:HEAD 1F810=a+FT|:#SM%L_EQUILAT,%:HEAD",
  "aUP|:#SM%L_EQUILAT,%:HEAD aR(|:#SM%L_EQUILAT,%:HEAD aDOWN|:#SM%L_EQUILAT,%:HEAD",
  "a+FT|:#EQUILAT,%:HEAD aUP|:#EQUILAT,%:HEAD aR(|:#EQUILAT,%:HEAD aDOWN|:#EQUILAT,%:HEAD",
  "aHEAVY_+FT|:#EQUILAT,%:HEAD gUP|:#EQUILAT,%:HEAD gR(|:#EQUILAT,%:HEAD gDOWN|:#EQUILAT,%:HEAD",
  "g+FT|:#L&GE_EQUILAT,%:HEAD gUP|:#L&GE_EQUILAT,%:HEAD gR(|:#L&GE_EQUILAT,%:HEAD",
  "gDOWN|:#L&GE_EQUILAT,%:HEAD a+FT|_TRI.G+-HEADED:#N&ROW<HAFT aUP|_TRI.G+-HEADED:#N&ROW<HAFT",
  "aR(|_TRI.G+-HEADED:#N&ROW<HAFT aDOWN|_TRI.G+-HEADED:#N&ROW<HAFT",
  "a+FT|_TRI.G+-HEADED:#MEDIUM<HAFT aUP|_TRI.G+-HEADED:#MEDIUM<HAFT",
  "aR(|_TRI.G+-HEADED:#MEDIUM<HAFT aDOWN|_TRI.G+-HEADED:#MEDIUM<HAFT",
  "a+FT|_TRI.G+-HEADED:#BOLD<HAFT aUP|_TRI.G+-HEADED:#BOLD<HAFT aR(|_TRI.G+-HEADED:#BOLD<HAFT",
  "aDOWN|_TRI.G+-HEADED:#BOLD<HAFT a+FT|_TRI.G+-HEADED:#HEAVY<HAFT aUP|_TRI.G+-HEADED:#HEAVY<HAFT",
  "aR(|_TRI.G+-HEADED:#HEAVY<HAFT aDOWN|_TRI.G+-HEADED:#HEAVY<HAFT",
  "a+FT|_TRI.G+-HEADED:#V,Y_HEAVY<HAFT aUP|_TRI.G+-HEADED:#V,Y_HEAVY<HAFT",
  "aR(|_TRI.G+-HEADED:#V,Y_HEAVY<HAFT aDOWN|_TRI.G+-HEADED:#V,Y_HEAVY<HAFT a+FT|_F*G,-POST:",
  "aUP|_F*G,-POST: aR(|_F*G,-POST: aDOWN|_F*G,-POST: a+FT|<QU&ED: aUP|<QU&ED: aR(|<QU&ED:",
  "aDOWN|<QU&ED: a+FT|_COMP~SSED: aUP|_COMP~SSED: aR(|_COMP~SSED: aDOWN|_COMP~SSED:",
  "a+FT|_HEAVY_COMP~SSED: aUP|_HEAVY_COMP~SSED: aR(|_HEAVY_COMP~SSED: aDOWN|_HEAVY_COMP~SSED:",
  "a+FT|_HEAVY: aUP|_HEAVY: aR(|_HEAVY: aDOWN|_HEAVY: 1F850=a+FT|<.S-S,IF: aUP|<.S-S,IF:",
  "aR(|<.S-S,IF: aDOWN|<.S-S,IF: aNORTH_WEST<.S-S,IF: gEAST<.S-S,IF: aSOUTH_EAST<.S-S,IF:",
  "gWEST<.S-S,IF: a+FT_R(<.S-S,IF: aUP_DOWN<.S-S,IF: 1F860=aWIDE-HEADE]+FT|_L(_B&B: mUP|_L(_B&B:",
  "mR(|_L(_B&B: mDOWN|_L(_B&B: mNORTH_WEST_L(_B&B: sEAST_L(_B&B: mSOUTH_EAST_L(_B&B:",
  "sWEST_L(_B&B: m+FT|_B&B: mUP|_B&B: mR(|_B&B: mDOWN|_B&B: mNORTH_WEST_B&B: sEAST_B&B:",
  "mSOUTH_EAST_B&B: sWEST_B&B: m+FT|_MEDIUM_B&B: mUP|_MEDIUM_B&B: mR(|_MEDIUM_B&B:",
  "mDOWN|_MEDIUM_B&B: mNORTH_WEST_MEDIUM_B&B: sEAST_MEDIUM_B&B: mSOUTH_EAST_MEDIUM_B&B:",
  "sWEST_MEDIUM_B&B: m+FT|_HEAVY_B&B: mUP|_HEAVY_B&B: mR(|_HEAVY_B&B: mDOWN|_HEAVY_B&B:",
  "mNORTH_WEST_HEAVY_B&B: sEAST_HEAVY_B&B: mSOUTH_EAST_HEAVY_B&B: sWEST_HEAVY_B&B:",
  "m+FT|_V,Y_HEAVY_B&B: mUP|_V,Y_HEAVY_B&B: mR(|_V,Y_HEAVY_B&B: mDOWN|_V,Y_HEAVY_B&B:",
  "mNORTH_WEST_V,Y_HEAVY_B&B: sEAST_V,Y_HEAVY_B&B: mSOUTH_EAST_V,Y_HEAVY_B&B:",
  "sWEST_V,Y_HEAVY_B&B: 1F890=a+FT|_TRI.G+:HEAD aUP|_TRI.G+:HEAD aR(|_TRI.G+:HEAD",
  "aDOWN|_TRI.G+:HEAD a+FT|_WHITE:_WITH*_TRI.G+:HEAD aUP|_WHITE:_WITH*_TRI.G+:HEAD",
  "aR(|_WHITE:_WITH*_TRI.G+:HEAD aDOWN|_WHITE:_WITH*_TRI.G+:HEAD a+FT|:#NOTCHE]TAIL",
  "aUP|:#NOTCHE]TAIL aR(|:#NOTCHE]TAIL aDOWN|:#NOTCHE]TAIL aHEAVY:<HAFT_WIDTH_;E yTWO_THIRDS",
  "y;E_H%F bcTHIRD a+FT|_BOTTOM-SHADE]WHITE: aR(|_BOTTOM<HADE]WHITE: a+FT|_TOP<HADE]WHITE:",
  "aR(|_TOP<HADE]WHITE: a+FT|_+FT-SHADE]WHITE: aR(|_R(-SHADE]WHITE: a+FT|_R(-SHADE]WHITE:",
  "aR(|_+FT-SHADE]WHITE: a+FT|_BACK-^LTED<HADOWE]WHITE: aR(|_BACK-^LTED<HADOWE]WHITE:",
  "a+FT|_FR;T-^LTED<HADOWE]WHITE: aR(|_FR;T-^LTED<HADOWE]WHITE: aWHITE:<HAFT_WIDTH_;E yTWO_THIRDS",
  "1F8B0=a&ROW_PO*T*G_UP|_TH[_NORTH_WEST pR(|_TH[_CURV*G<OUTH_WEST",
  "1F900=aCIRC+]CROSS)EE#FOUR_DOTS baTWO_DOTS u a+FT_H%F_CIRC+#FOUR_DOTS wTH~E_DOTS xWO_DOTS wDOT",
  "q aDOWNW&]FAC*G_HOOK qNOTCHE]HOOK qHOOK#DOT qNOTCHE]HOOK#DOT aP*CHE]F*G,S aWHITE_HE&T",
  "aBROWN_HE&T aP*CH*G_H.D aZIPP,-MOUTH_FACE aM;EY-MOUTH_FACE aFACE#TH,MOMET, aN,]FACE",
  "aTH*K*G_FACE aFACE#HEAD-B.DAGE aROBOT_FACE aHUGG*G_FACE aSIGN_OF_THE_HORNS aC%L_ME_H.D",
  "aRAISE]BACK_OF_H.D a+FT-FAC*G_FIST aR(-FAC*G_FIST aH.DSHAKE e#*DEX_.]MIDD+_F*G,S_CROSSED",
  "aI_LOVE_YOU_H.D<IGN aFACE#COWBOY_HAT aCLOWN_FACE aNAUSEATE]FACE aROLL*G_;_THE_FLOOR_LAUGH*G",
  "aDROOL*G_FACE aLY*G_FACE aFACE_P%M aSNEEZ*G_FACE aFACE#;E_EYEBROW_RAISED aGR*N*G_FACE#ST&_EYES",
  "t;E_L&GE_.];E<M%L_EYE aFACE#F*G,_COV,*G_CLOSE]LIPS aS,IOUS_FACE#SYMBOLS_COV,*G_MOUTH",
  "bMIL*G_FACE#SMIL*G_EYES_.]H.]COV,*G_MOUTH aFACE#OP[_MOUTH_VOMIT*G aSHOCKE]FACE#EXPLOD*G_HEAD",
  "aP~GN.T_WOM. aB~AST-FEED*G aP%MS_UP_TOGETH, aSELFIE aPR*CE aM._*_TUXEDO bOTH,_CHRISTMAS aSHRUG",
  "aP,S;_DO*G_C&TWHEEL aJUGGL*G aF[C, aMOD,N_P[TATHL; aW~ST+RS bAT,_POLO aH.DB%L aDIV*G_MASK",
  "aWILTE]FLOW, aDRUM#DRUMS^CKS aCL*K*G_GLASSES aTUMB+R_GLASS aSPO; aGO%_NET aRIF+",
  "aFIRST_PLACE_MED% aSEC;]PLACE_MED% aTHIR]PLACE_MED% aBOX*G_GLOVE aM&^%_&TS_UNIFORM aCURL*G<T;E",
  "aLACROSSE<^CK_.]B%L aSOFTB%L aFLY*G_DISC aCROISS.T aAVOCADO aCUCUMB, aBAC; aPOTATO aC&ROT",
  "aBAGUETTE_B~AD aG~[<%AD aSH%LOW_P._OF_FOOD bTUFFE]FLATB~AD aEGG aGLASS_OF_MILK aPE.UTS",
  "aKIWIFRUIT aP.CAKES aDUMPL*G aFORTUNE_COOKIE aTAKEOUT_BOX aCHOPS^CKS aBOWL#SPO; aCUP#STRAW",
  "bOC;UT aBROCCOLI aPIE b~TZEL aCUT_OF_MEAT aS.DWICH aC.NE]FOOD a+AFY_G~[ aM.GO bO;_CAKE aBAGEL",
  "aSMIL*G_FACE#SMIL*G_EYES_.]TH~E_HE&TS aYAWN*G_FACE aSMIL*G_FACE#TE& aFACE#P&TY_HORN_.]P&TY_HAT",
  "kUNEV[_EYES_.]WAVY_MOUTH aOV,HEATE]FACE aF~EZ*G_FACE aN*JA aDISGUISE]FACE",
  "aFACE_HOLD*G_BACK_TE&S fWITH_P+AD*G_EYES aS&I aLAB_COAT aGOGG+S aHIK*G_BOOT aFLAT<HOE aCRAB",
  "aLI;_FACE aSCORPI; aTURKEY aUNICORN_FACE aEAG+ aDUCK aBAT aSH&K aOWL aFOX_FACE aBUTT,FLY aDE,",
  "aGORILLA aLIZ&D aRH*OC,OS aSHRIMP bQUID aGIRAFFE_FACE aZEBRA_FACE aHEDGEHOG aSAUROPOD aT-~X",
  "aCRICKET aK.G&OO aLLAMA aPEACOCK aHIPPOPOTAMUS aP&ROT aRACCO; aLOBST, aMOSQUITO bICROBE aBADG,",
  "aSW. aMAMMOTH aDODO aSLOTH aOTT, bR.GUT. aSKUNK aFLAM*GO aOYST, aBEAV, bIS; aSE% aGUIDE_DOG",
  "aPROB*G_C.E aEMOJI_COMP;[T_~]HAIR qCURLY_HAIR qB%D qWHITE_HAIR aB;E a+G aFOOT aTOOTH aSUP,H,O",
  "fVILLA* bAFETY_VEST aE&#HE&*G_AID aMOTORIZE]WHEELCHAIR b.U%_WHEELCHAIR bECH.IC%_&M l+G",
  "aCHEESE_WEDGE bUPCAKE aS%T<HAK, aBEV,AGE_BOX aG&LIC a;I; aF%AFEL aWAFF+ aBUTT, aMATE_DR*K",
  "aICE_CUBE aBUBB+_TEA aTROLL aST.D*G_P,S; aKNEEL*G_P,S; aDEAF_P,S; aFACE#M;OC+ aADULT aCHILD",
  "aOLD,_ADULT aBE&DE]P,S; aP,S;#HEADSC&F h*<TEAMY_ROOM hCLIMB*G h*_LOTUS_POSI^; aMAGE aFAIRY",
  "aVAMPI~ aM,P,S; aELF aG[IE aZOMBIE aBRA* aOR.GE_HE&T aBIL+]CAP aSC&F aGLOVES aCOAT aSOCKS",
  "a~]GIFT_[VELOPE aFI~CRACK, aJIGSAW_PUZZ+_PIECE aTEST_TUBE aPETRI_DISH aDNA_DOUB+_HELIX",
  "aCOMPASS aABACUS aFI~_EXT*GUISH, aTOOLBOX aBRICK aMAGNET aLUGGAGE bO^;_BOTT+ aSPOOL_OF_TH~AD",
  "aB%L_OF_Y&N aSAFETY_P* aTEDDY_BE& aBROOM bASKET aROLL_OF_PAP, aB&_OF<OAP aSP;GE a~CEIPT",
  "aNAZ&_AMU+T bEUTR%_CHESS_K*G oQUE[ oROOK oBISHOP oKN( oPAWN",
  "aWHITE_CHESS_KN(_ROTATE]FORTY-FIVE_DEG~ES aBLACK_CHESS_KN(_ROTATE]FORTY-FIVE_DEG~ES",
  "aNEUTR%_CHESS_KN(_ROTATE]FORTY-FIVE_DEG~ES aWHITE_CHESS_K*G_ROTATE]N*ETY_DEG~ES",
  "mQUE[_ROTATE]N*ETY_DEG~ES mROOK_ROTATE]N*ETY_DEG~ES mBISHOP_ROTATE]N*ETY_DEG~ES",
  "mKN(_ROTATE]N*ETY_DEG~ES mPAWN_ROTATE]N*ETY_DEG~ES aBLACK_CHESS_K*G_ROTATE]N*ETY_DEG~ES",
  "mQUE[_ROTATE]N*ETY_DEG~ES mROOK_ROTATE]N*ETY_DEG~ES mBISHOP_ROTATE]N*ETY_DEG~ES",
  "mKN(_ROTATE]N*ETY_DEG~ES mPAWN_ROTATE]N*ETY_DEG~ES aNEUTR%_CHESS_K*G_ROTATE]N*ETY_DEG~ES",
  "oQUE[_ROTATE]N*ETY_DEG~ES oROOK_ROTATE]N*ETY_DEG~ES oBISHOP_ROTATE]N*ETY_DEG~ES",
  "oKN(_ROTATE]N*ETY_DEG~ES oPAWN_ROTATE]N*ETY_DEG~ES",
  "aWHITE_CHESS_KN(_ROTATE];E_HUND~]THIRTY-FIVE_DEG~ES",
  "aBLACK_CHESS_KN(_ROTATE];E_HUND~]THIRTY-FIVE_DEG~ES",
  "aNEUTR%_CHESS_KN(_ROTATE];E_HUND~]THIRTY-FIVE_DEG~ES aWHITE_CHESS_TURNE]K*G tQUE[ tROOK",
  "tBISHOP tKN( tPAWN aBLACK_CHESS_TURNE]K*G tQUE[ tROOK tBISHOP tKN( tPAWN",
  "aNEUTR%_CHESS_TURNE]K*G vQUE[ vROOK vBISHOP vKN( vPAWN",
  "aWHITE_CHESS_KN(_ROTATE]TWO_HUND~]TW[TY-FIVE_DEG~ES",
  "aBLACK_CHESS_KN(_ROTATE]TWO_HUND~]TW[TY-FIVE_DEG~ES",
  "aNEUTR%_CHESS_KN(_ROTATE]TWO_HUND~]TW[TY-FIVE_DEG~ES",
  "aWHITE_CHESS_K*G_ROTATE]TWO_HUND~D<EV[TY_DEG~ES mQUE[_ROTATE]TWO_HUND~D<EV[TY_DEG~ES",
  "mROOK_ROTATE]TWO_HUND~D<EV[TY_DEG~ES mBISHOP_ROTATE]TWO_HUND~D<EV[TY_DEG~ES",
  "mKN(_ROTATE]TWO_HUND~D<EV[TY_DEG~ES mPAWN_ROTATE]TWO_HUND~D<EV[TY_DEG~ES",
  "aBLACK_CHESS_K*G_ROTATE]TWO_HUND~D<EV[TY_DEG~ES mQUE[_ROTATE]TWO_HUND~D<EV[TY_DEG~ES",
  "mROOK_ROTATE]TWO_HUND~D<EV[TY_DEG~ES mBISHOP_ROTATE]TWO_HUND~D<EV[TY_DEG~ES",
  "mKN(_ROTATE]TWO_HUND~D<EV[TY_DEG~ES mPAWN_ROTATE]TWO_HUND~D<EV[TY_DEG~ES",
  "aNEUTR%_CHESS_K*G_ROTATE]TWO_HUND~D<EV[TY_DEG~ES oQUE[_ROTATE]TWO_HUND~D<EV[TY_DEG~ES",
  "oROOK_ROTATE]TWO_HUND~D<EV[TY_DEG~ES oBISHOP_ROTATE]TWO_HUND~D<EV[TY_DEG~ES",
  "oKN(_ROTATE]TWO_HUND~D<EV[TY_DEG~ES oPAWN_ROTATE]TWO_HUND~D<EV[TY_DEG~ES",
  "aWHITE_CHESS_KN(_ROTATE]TH~E_HUND~]FIFTE[_DEG~ES",
  "aBLACK_CHESS_KN(_ROTATE]TH~E_HUND~]FIFTE[_DEG~ES",
  "aNEUTR%_CHESS_KN(_ROTATE]TH~E_HUND~]FIFTE[_DEG~ES aWHITE_CHESS_EQUIHOPP,",
  "aBLACK_CHESS_EQUIHOPP, aNEUTR%_CHESS_EQUIHOPP, aWHITE_CHESS_EQUIHOPP,_ROTATE]N*ETY_DEG~ES",
  "aBLACK_CHESS_EQUIHOPP,_ROTATE]N*ETY_DEG~ES aNEUTR%_CHESS_EQUIHOPP,_ROTATE]N*ETY_DEG~ES",
  "aWHITE_CHESS_KN(-QUE[ tROOK tBISHOP aBLACK_CHESS_KN(-QUE[ tROOK tBISHOP 1FA60=aXI.GQI_~]G[,%",
  "mM.D&* mE+PH.T mHORSE mCH&IOT n.N; mSOLDI, iBLACK_G[,% oM.D&* oE+PH.T oHORSE oCH&IOT p.N;",
  "oSOLDI, 1FA70=aB%+T<HOES a;E-PIECE<WIMSUIT aBRIEFS aSHORTS aTH;G<.D% 1FA78=aDROP_OF_BLOOD",
  "aADHESIVE_B.DAGE aSTETHOSCOPE aX-RAY aCRUTCH 1FA80=aYO-YO aKITE aP&ACHUTE aBOOM,.G aMAGIC_W.D",
  "aP*ATA aNEST*G_DOLLS 1FA90=aR*GE]PL.ET aCHAIR aRAZOR aAXE aDIYA_LAMP aB.JO aMILIT&Y_HELMET",
  "aACCORDI; aL;G_DRUM aCO* b&P[TRY<AW aSC~WDRIV, aLADD, aHOOK aMIRROR aW*DOW aPLUNG,",
  "aSEW*G_NEED+ aKNOT aBUCKET aMOUSE_TRAP aTOOTHBRUSH aHEADST;E aPLAC&D aROCK aMIRROR_B%L",
  "aID[^FICA^;_C&D aLOW_BATT,Y aHAMSA 1FAB0=aFLY aWORM aBEET+ aCOCKROACH aPOTTE]PL.T aWOOD",
  "aFEATH, aLOTUS aCOR% aEMPTY_NEST aNEST#EGGS 1FAC0=a.ATOMIC%_HE&T aLUNGS aPEOP+_HUGG*G",
  "b~GN.T_M. jP,S; b,S;#CROWN 1FAD0=aBLUEB,RIES bELL_PEPP, aOLIVE aFLATB~AD aTAM%E aF;DUE aTEAPOT",
  "aPOUR*G_LIQUID aBE.S aJ& 1FAE0=aMELT*G_FACE aS%UT*G_FACE aFACE#OP[_EYES_.]H.]OV,_MOUTH",
  "kPEEK*G_EYE kDIAG;%_MOUTH aDOTTE]L*E_FACE aBIT*G_LIP bUBB+S",
  "1FAF0=aH.D#*DEX_F*G,_.]THUMB_CROSSED aR(|_H.D a+FT|_H.D aP%M_DOWN_H.D fUP_H.D",
  "a*DEX_PO*T*G_AT_THE_VIEW, aHE&T_H.DS 1FB00=aBLOCK<EXT.T-1 o2 o12 o3 o13 o23 o123 o4 o14 o24",
  "o124 o34 o134 o234 o1234 o5 o15 o25 o125 o35 o235 o1235 o45 o145 o245 o1245 o345 o1345 o2345",
  "o12345 o6 o16 o26 o126 o36 o136 o236 o1236 o46 o146 p246 o346 o1346 o2346 o12346 o56 o156 o256",
  "o1256 o356 o1356 o2356 o12356 o456 o1456 o2456 o12456 o3456 o13456 o23456",
  "aLOW,_+FT_BLOCK_DIAG;%_LOW,_MIDD+_+FT_TO_LOW,_C[T~ cbR( baUPP,_MIDD+_+FT_TO_LOW,_C[T~ cbR(",
  "bg+FT_TO_LOW,_C[T~ gR(_BLOCK_DIAG;%_UPP,_MIDD+_+FT_TO_UPP,_C[T~ ccR(",
  "bbLOW,_MIDD+_+FT_TO_UPP,_C[T~ ccR( bh+FT_TO_UPP,_C[T~ bhMIDD+_+FT_TO_UPP,_MIDD+_R(",
  "bhC[T~_TO_LOW,_MIDD+_R( bh+FT_TO_LOW,_MIDD+_R( bhC[T~_TO_UPP,_MIDD+_R( bh+FT_TO_UPP,_MIDD+_R(",
  "bhC[T~_TO_UPP,_R( g+FT_BLOCK_DIAG;%_UPP,_C[T~_TO_UPP,_MIDD+_R( bg+FT_TO_UPP,_MIDD+_R(",
  "bgC[T~_TO_LOW,_MIDD+_R( bg+FT_TO_LOW,_MIDD+_R( bgC[T~_TO_LOW,_R( bgMIDD+_+FT_TO_LOW,_MIDD+_R(",
  "aUPP,_R(_BLOCK_DIAG;%_LOW,_MIDD+_+FT_TO_LOW,_C[T~ ccR( bbUPP,_MIDD+_+FT_TO_LOW,_C[T~ ccR(",
  "bh+FT_TO_LOW,_C[T~ g+FT_BLOCK_DIAG;%_UPP,_MIDD+_+FT_TO_UPP,_C[T~ cbR(",
  "baLOW,_MIDD+_+FT_TO_UPP,_C[T~ cbR( bg+FT_TO_UPP,_C[T~ bgMIDD+_+FT_TO_UPP,_MIDD+_R(",
  "bgC[T~_TO_LOW,_MIDD+_R( bg+FT_TO_LOW,_MIDD+_R( bgC[T~_TO_UPP,_MIDD+_R( bg+FT_TO_UPP,_MIDD+_R(",
  "bgC[T~_TO_UPP,_R( gR(_BLOCK_DIAG;%_UPP,_C[T~_TO_UPP,_MIDD+_R( bh+FT_TO_UPP,_MIDD+_R(",
  "bhC[T~_TO_LOW,_MIDD+_R( bh+FT_TO_LOW,_MIDD+_R( bhC[T~_TO_LOW,_R( bhMIDD+_+FT_TO_LOW,_MIDD+_R(",
  "g.]R(_.]LOW,_TRI.GUL&_TH~E_QU&T,S_BLOCK a+FT_.]LOW,_.]R(_TRI.GUL&_TH~E_QU&T,S_BLOCK",
  "aUPP,_.]+FT_.]LOW,_TRI.GUL&_TH~E_QU&T,S_BLOCK a+FT_.]UPP,_.]R(_TRI.GUL&_TH~E_QU&T,S_BLOCK",
  "fTRI.GUL&_;E_QU&T,_BLOCK aUPP,_TRI.GUL&_;E_QU&T,_BLOCK aR(_TRI.GUL&_;E_QU&T,_BLOCK",
  "aLOW,_TRI.GUL&_;E_QU&T,_BLOCK aV,^C%_;E_E(H_BLOCK-2 ba3 ba4 ba5 ba6 ba7",
  "aHORIZ;T%_;E_E(H_BLOCK-2 bc3 bc4 bc5 bc6 bc7 a+FT_.]LOW,_;E_E(H_BLOCK jUPP,_;E_E(H_BLOCK",
  "aR(_.]UPP,_;E_E(H_BLOCK kLOW,_;E_E(H_BLOCK aUPP,_.]LOW,_;E_E(H_BLOCK",
  "aHORIZ;T%_;E_E(H_BLOCK-1358 aUPP,_;E_QU&T,_BLOCK gTH~E_E(HS_BLOCK gFIVE_E(HS_BLOCK",
  "gTH~E_QU&T,S_BLOCK gSEV[_E(HS_BLOCK aR(_;E_QU&T,_BLOCK gTH~E_E(HS_BLOCK gFIVE_E(HS_BLOCK",
  "gTH~E_QU&T,S_BLOCK gSEV[_E(HS_BLOCK a+FT_H%F_MEDIUM<HADE aR(_H%F_MEDIUM<HADE",
  "aUPP,_H%F_MEDIUM<HADE aLOW,_H%F_MEDIUM<HADE a*V,SE_MEDIUM<HADE",
  "aUPP,_H%F_BLOCK_.]LOW,_H%F_*V,SE_MEDIUM<HADE l*V,SE_MEDIUM<HADE_.]LOW,_H%F_BLOCK",
  "1FB94=a+FT_H%F_*V,SE_MEDIUM<HADE_.]R(_H%F_BLOCK aCHECK,_BO&]FILL a*V,SE_CHECK,_BO&]FILL",
  "aHEAVY_HORIZ;T%_FILL aUPP,_+FT_TO_LOW,_R(_FILL gR(_TO_LOW,_+FT_FILL g.]LOW,_TRI.GUL&_H%F_BLOCK",
  "a+FT_.]R(_TRI.GUL&_H%F_BLOCK aUPP,_+FT_TRI.GUL&_MEDIUM<HADE gR(_TRI.GUL&_MEDIUM<HADE",
  "aLOW,_R(_TRI.GUL&_MEDIUM<HADE g+FT_TRI.GUL&_MEDIUM<HADE",
  "aBOX_DRAW*GS_L(_DIAG;%_UPP,_C[T~_TO_MIDD+_+FT bzR( bcMIDD+_+FT_TO_LOW,_C[T~ bjR(_TO_LOW,_C[T~",
  "bcUPP,_C[T~_TO_MIDD+_+FT_TO_LOW,_C[T~ bzR(_TO_LOW,_C[T~ bcMIDD+_+FT_TO_LOW,_C[T~_TO_MIDD+_R(",
  "brUPP,_C[T~_TO_MIDD+_R( bcUPP,_C[T~_TO_MIDD+_+FT_.]MIDD+_R(_TO_LOW,_C[T~",
  "bzR(_.]MIDD+_+FT_TO_LOW,_C[T~ cfTO_LOW,_C[T~_TO_MIDD+_+FT bz+FT_TO_LOW,_C[T~_TO_MIDD+_R(",
  "bcMIDD+_+FT_TO_UPP,_C[T~_TO_MIDD+_R(_TO_LOW,_C[T~ bjR(_TO_UPP,_C[T~_TO_MIDD+_+FT_TO_LOW,_C[T~",
  "bcDIAM;D tHORIZ;T%#V,^C%<TROKE a&ROWHEAD-SHAPE]PO*T, a*V,SE_CHECK_M&K a+FT_H%F_RUNN*G_M.",
  "aR(_H%F_RUNN*G_M. a*V,SE_DOWN|:#^P_+FT| a+FT|:_.]UPP,_.]LOW,_;E_E(H_BLOCK",
  "aR(|:_.]UPP,_.]LOW,_;E_E(H_BLOCK aDOWN|:_.]R(_;E_E(H_BLOCK aUP|:_.]R(_;E_E(H_BLOCK",
  "a+FT_H%F_FOLD, aR(_H%F_FOLD, aVOIDE]G~EK_CROSS aR(_OP[<QU&E]DOT aNEGA^VE_DIAG;%_CROSS",
  "sMIDD+_R(_TO_LOW,_C[T~ sDIAM;D aWHITE_HEAVY<%^~#ROUNDE]CORN,S a+FT_THIR]WHITE_R(_PO*T*G_*DEX",
  "aMIDD+_THIR]WHITE_R(_PO*T*G_*DEX aR(_THIR]WHITE_R(_PO*T*G_*DEX aNEGA^VE<QU&E]QUES^;_M&K",
  "aS^CK_FIGU~ m#&MS_RAISED n+.*G_+FT vR( nWITH_D~SS aWHITE_UP-PO*T*G_CHEVR;",
  "1FBF0=aSEGM[TE]DIGIT_Z,O q;E qTWO rH~E qFOUR rIVE qSIX rEV[ qE( qN*E E0001=aL.GUAGE_TAG",
  "E0020=aTAG<PACE eEXCLAMA^;_M&K eQUOTA^;_M&K eNUMB,<IGN eDOLL&<IGN eP,C[T<IGN eAMP,S.D",
  "fPOSTROPHE e+FT_P&[THESIS eR(_P&[THESIS eAST,ISK ePLUS<IGN eCOMMA eHYPH[-M*US eFULL<TOP",
  "eSOLIDUS eDIGIT_Z,O k;E kTWO lH~E kFOUR lIVE kSIX lEV[ kE( kN*E eCOL; eSEMICOL; e+SS-TH.<IGN",
  "eEQU%S<IGN eG~AT,-TH.<IGN eQUES^;_M&K eCOMM,CI%_AT eLAT*_$A zB zC zD zE zF zG zH zI zJ zK zL",
  "zM zN zO zP zQ zR zS zT zU zV zW zX zY zZ fEFT<QU&E_BRACKET e~V,SE<OLIDUS f(<QU&E_BRACKET",
  "eCIRCUMF+X_ACC[T eLOW_L*E eGRAVE_ACC[T eLAT*<M%!A xB xC xD xE xF xG xH xI xJ xK xL xM xN xO xP"]

/-- Names from code point E0071 on. -/
def namesFromE0071 : List String := [
  "xQ xR xS xT xU xV xW xX xY xZ fEFT_CURLY_BRACKET eV,^C%_L*E eR(_CURLY_BRACKET e^LDE aC.CEL_TAG",
  "E0100=aV&IA^;<E+CTOR-17 u8 u9 t20 u1 u2 u3 u4 u5 u6 u7 u8 u9 t30 u1 u2 u3 u4 u5 u6 u7 u8 u9",
  "t40 u1 u2 u3 u4 u5 u6 u7 u8 u9 t50 u1 u2 u3 u4 u5 u6 u7 u8 u9 t60 u1 u2 u3 u4 u5 u6 u7 u8 u9",
  "t70 u1 u2 u3 u4 u5 u6 u7 u8 u9 t80 u1 u2 u3 u4 u5 u6 u7 u8 u9 t90 u1 u2 u3 u4 u5 u6 u7 u8 u9",
  "t100 v1 v2 v3 v4 v5 v6 v7 v8 v9 u10 v1 v2 v3 v4 v5 v6 v7 v8 v9 u20 v1 v2 v3 v4 v5 v6 v7 v8 v9",
  "u30 v1 v2 v3 v4 v5 v6 v7 v8 v9 u40 v1 v2 v3 v4 v5 v6 v7 v8 v9 u50 v1 v2 v3 v4 v5 v6 v7 v8 v9",
  "u60 v1 v2 v3 v4 v5 v6 v7 v8 v9 u70 v1 v2 v3 v4 v5 v6 v7 v8 v9 u80 v1 v2 v3 v4 v5 v6 v7 v8 v9",
  "u90 v1 v2 v3 v4 v5 v6 v7 v8 v9 t200 v1 v2 v3 v4 v5 v6 v7 v8 v9 u10 v1 v2 v3 v4 v5 v6 v7 v8 v9",
  "u20 v1 v2 v3 v4 v5 v6 v7 v8 v9 u30 v1 v2 v3 v4 v5 v6 v7 v8 v9 u40 v1 v2 v3 v4 v5 v6 v7 v8 v9",
  "u50 v1 v2 v3 v4 v5 v6"]

/-- The names of characters in the order of their code points.  Each word is a name: its code point
and `=` if that is not the next one, the number of characters that it shares with the name before,
in base twenty-six with small letters for digits, and the rest of it.  Blanks are written as
underscores, and the marks stand for what they do in all names. -/
def nameRows : List (List String) :=
  [namesFrom20, namesFrom1122, namesFrom21F8, namesFrom2ABF, namesFromA9C0, namesFrom1105E,
    namesFrom18A13, namesFrom1F054, namesFromE0071]

/-- Further names of characters: each word is a code point, `=` and a name, with underscores for
blanks. -/
def aliasRows : List String := [
  "0=NULL 0=NUL 1=START_OF_HEADING 1=SOH 2=START_OF_TEXT 2=STX 3=END_OF_TEXT 3=ETX",
  "4=END_OF_TRANSMISSION 4=EOT 5=ENQUIRY 5=ENQ 6=ACKNOWLEDGE 6=ACK 7=ALERT 7=BEL 8=BACKSPACE 8=BS",
  "9=CHARACTER_TABULATION 9=HORIZONTAL_TABULATION 9=HT 9=TAB A=LINE_FEED A=NEW_LINE A=END_OF_LINE",
  "A=LF A=NL A=EOL B=LINE_TABULATION B=VERTICAL_TABULATION B=VT C=FORM_FEED C=FF",
  "D=CARRIAGE_RETURN D=CR E=SHIFT_OUT E=LOCKING-SHIFT_ONE E=SO F=SHIFT_IN F=LOCKING-SHIFT_ZERO",
  "F=SI 10=DATA_LINK_ESCAPE 10=DLE 11=DEVICE_CONTROL_ONE 11=DC1 12=DEVICE_CONTROL_TWO 12=DC2",
  "13=DEVICE_CONTROL_THREE 13=DC3 14=DEVICE_CONTROL_FOUR 14=DC4 15=NEGATIVE_ACKNOWLEDGE 15=NAK",
  "16=SYNCHRONOUS_IDLE 16=SYN 17=END_OF_TRANSMISSION_BLOCK 17=ETB 18=CANCEL 18=CAN",
  "19=END_OF_MEDIUM 19=EOM 1A=SUBSTITUTE 1A=SUB 1B=ESCAPE 1B=ESC 1C=INFORMATION_SEPARATOR_FOUR",
  "1C=FILE_SEPARATOR 1C=FS 1D=INFORMATION_SEPARATOR_THREE 1D=GROUP_SEPARATOR 1D=GS",
  "1E=INFORMATION_SEPARATOR_TWO 1E=RECORD_SEPARATOR 1E=RS 1F=INFORMATION_SEPARATOR_ONE",
  "1F=UNIT_SEPARATOR 1F=US 20=SP 7F=DELETE 7F=DEL 80=PADDING_CHARACTER 80=PAD",
  "81=HIGH_OCTET_PRESET 81=HOP 82=BREAK_PERMITTED_HERE 82=BPH 83=NO_BREAK_HERE 83=NBH 84=INDEX",
  "84=IND 85=NEXT_LINE 85=NEL 86=START_OF_SELECTED_AREA 86=SSA 87=END_OF_SELECTED_AREA 87=ESA",
  "88=CHARACTER_TABULATION_SET 88=HORIZONTAL_TABULATION_SET 88=HTS",
  "89=CHARACTER_TABULATION_WITH_JUSTIFICATION 89=HORIZONTAL_TABULATION_WITH_JUSTIFICATION 89=HTJ",
  "8A=LINE_TABULATION_SET 8A=VERTICAL_TABULATION_SET 8A=VTS 8B=PARTIAL_LINE_FORWARD",
  "8B=PARTIAL_LINE_DOWN 8B=PLD 8C=PARTIAL_LINE_BACKWARD 8C=PARTIAL_LINE_UP 8C=PLU",
  "8D=REVERSE_LINE_FEED 8D=REVERSE_INDEX 8D=RI 8E=SINGLE_SHIFT_TWO 8E=SINGLE-SHIFT-2 8E=SS2",
  "8F=SINGLE_SHIFT_THREE 8F=SINGLE-SHIFT-3 8F=SS3 90=DEVICE_CONTROL_STRING 90=DCS",
  "91=PRIVATE_USE_ONE 91=PRIVATE_USE-1 91=PU1 92=PRIVATE_USE_TWO 92=PRIVATE_USE-2 92=PU2",
  "93=SET_TRANSMIT_STATE 93=STS 94=CANCEL_CHARACTER 94=CCH 95=MESSAGE_WAITING 95=MW",
  "96=START_OF_GUARDED_AREA 96=START_OF_PROTECTED_AREA 96=SPA 97=END_OF_GUARDED_AREA",
  "97=END_OF_PROTECTED_AREA 97=EPA 98=START_OF_STRING 98=SOS",
  "99=SINGLE_GRAPHIC_CHARACTER_INTRODUCER 99=SGC 9A=SINGLE_CHARACTER_INTRODUCER 9A=SCI",
  "9B=CONTROL_SEQUENCE_INTRODUCER 9B=CSI 9C=STRING_TERMINATOR 9C=ST 9D=OPERATING_SYSTEM_COMMAND",
  "9D=OSC 9E=PRIVACY_MESSAGE 9E=PM 9F=APPLICATION_PROGRAM_COMMAND 9F=APC A0=NBSP AD=SHY",
  "1A2=LATIN_CAPITAL_LETTER_GHA 1A3=LATIN_SMALL_LETTER_GHA 34F=CGJ 61C=ALM",
  "709=SYRIAC_SUBLINEAR_COLON_SKEWED_LEFT CDE=KANNADA_LETTER_LLLA E9D=LAO_LETTER_FO_FON",
  "E9F=LAO_LETTER_FO_FAY EA3=LAO_LETTER_RO EA5=LAO_LETTER_LO",
  "FD0=TIBETAN_MARK_BKA-_SHOG_GI_MGO_RGYAN 11EC=HANGUL_JONGSEONG_YESIEUNG-KIYEOK",
  "11ED=HANGUL_JONGSEONG_YESIEUNG-SSANGKIYEOK 11EE=HANGUL_JONGSEONG_SSANGYESIEUNG",
  "11EF=HANGUL_JONGSEONG_YESIEUNG-KHIEUKH 180B=FVS1 180C=FVS2 180D=FVS3 180E=MVS 180F=FVS4",
  "200B=ZWSP 200C=ZWNJ 200D=ZWJ 200E=LRM 200F=RLM 202A=LRE 202B=RLE 202C=PDF 202D=LRO 202E=RLO",
  "202F=NNBSP 205F=MMSP 2060=WJ 2066=LRI 2067=RLI 2068=FSI 2069=PDI",
  "2118=WEIERSTRASS_ELLIPTIC_FUNCTION 2448=MICR_ON_US_SYMBOL 2449=MICR_DASH_SYMBOL",
  "2B7A=LEFTWARDS_TRIANGLE-HEADED_ARROW_WITH_DOUBLE_VERTICAL_STROKE",
  "2B7C=RIGHTWARDS_TRIANGLE-HEADED_ARROW_WITH_DOUBLE_VERTICAL_STROKE",
  "A015=YI_SYLLABLE_ITERATION_MARK AA6E=MYANMAR_LETTER_KHAMTI_LLA FE00=VS1 FE01=VS2 FE02=VS3",
  "FE03=VS4 FE04=VS5 FE05=VS6 FE06=VS7 FE07=VS8 FE08=VS9 FE09=VS10 FE0A=VS11 FE0B=VS12 FE0C=VS13",
  "FE0D=VS14 FE0E=VS15 FE0F=VS16",
  "FE18=PRESENTATION_FORM_FOR_VERTICAL_RIGHT_WHITE_LENTICULAR_BRACKET FEFF=BYTE_ORDER_MARK",
  "FEFF=BOM FEFF=ZWNBSP 122D4=CUNEIFORM_SIGN_NU11_TENU",
  "122D5=CUNEIFORM_SIGN_NU11_OVER_NU11_BUR_OVER_BUR 16E56=MEDEFAIDRIN_CAPITAL_LETTER_H",
  "16E57=MEDEFAIDRIN_CAPITAL_LETTER_NG 16E76=MEDEFAIDRIN_SMALL_LETTER_H",
  "16E77=MEDEFAIDRIN_SMALL_LETTER_NG 1B001=HENTAIGANA_LETTER_E-1",
  "1D0C5=BYZANTINE_MUSICAL_SYMBOL_FTHORA_SKLIRON_CHROMA_VASIS E0100=VS17 E0101=VS18 E0102=VS19",
  "E0103=VS20 E0104=VS21 E0105=VS22 E0106=VS23 E0107=VS24 E0108=VS25 E0109=VS26 E010A=VS27",
  "E010B=VS28 E010C=VS29 E010D=VS30 E010E=VS31 E010F=VS32 E0110=VS33 E0111=VS34 E0112=VS35",
  "E0113=VS36 E0114=VS37 E0115=VS38 E0116=VS39 E0117=VS40 E0118=VS41 E0119=VS42 E011A=VS43",
  "E011B=VS44 E011C=VS45 E011D=VS46 E011E=VS47 E011F=VS48 E0120=VS49 E0121=VS50 E0122=VS51",
  "E0123=VS52 E0124=VS53 E0125=VS54 E0126=VS55 E0127=VS56 E0128=VS57 E0129=VS58 E012A=VS59",
  "E012B=VS60 E012C=VS61 E012D=VS62 E012E=VS63 E012F=VS64 E0130=VS65 E0131=VS66 E0132=VS67",
  "E0133=VS68 E0134=VS69 E0135=VS70 E0136=VS71 E0137=VS72 E0138=VS73 E0139=VS74 E013A=VS75",
  "E013B=VS76 E013C=VS77 E013D=VS78 E013E=VS79 E013F=VS80 E0140=VS81 E0141=VS82 E0142=VS83",
  "E0143=VS84 E0144=VS85 E0145=VS86 E0146=VS87 E0147=VS88 E0148=VS89 E0149=VS90 E014A=VS91",
  "E014B=VS92 E014C=VS93 E014D=VS94 E014E=VS95 E014F=VS96 E0150=VS97 E0151=VS98 E0152=VS99",
  "E0153=VS100 E0154=VS101 E0155=VS102 E0156=VS103 E0157=VS104 E0158=VS105 E0159=VS106",
  "E015A=VS107 E015B=VS108 E015C=VS109 E015D=VS110 E015E=VS111 E015F=VS112 E0160=VS113",
  "E0161=VS114 E0162=VS115 E0163=VS116 E0164=VS117 E0165=VS118 E0166=VS119 E0167=VS120",
  "E0168=VS121 E0169=VS122 E016A=VS123 E016B=VS124 E016C=VS125 E016D=VS126 E016E=VS127",
  "E016F=VS128 E0170=VS129 E0171=VS130 E0172=VS131 E0173=VS132 E0174=VS133 E0175=VS134",
  "E0176=VS135 E0177=VS136 E0178=VS137 E0179=VS138 E017A=VS139 E017B=VS140 E017C=VS141",
  "E017D=VS142 E017E=VS143 E017F=VS144 E0180=VS145 E0181=VS146 E0182=VS147 E0183=VS148",
  "E0184=VS149 E0185=VS150 E0186=VS151 E0187=VS152 E0188=VS153 E0189=VS154 E018A=VS155",
  "E018B=VS156 E018C=VS157 E018D=VS158 E018E=VS159 E018F=VS160 E0190=VS161 E0191=VS162",
  "E0192=VS163 E0193=VS164 E0194=VS165 E0195=VS166 E0196=VS167 E0197=VS168 E0198=VS169",
  "E0199=VS170 E019A=VS171 E019B=VS172 E019C=VS173 E019D=VS174 E019E=VS175 E019F=VS176",
  "E01A0=VS177 E01A1=VS178 E01A2=VS179 E01A3=VS180 E01A4=VS181 E01A5=VS182 E01A6=VS183",
  "E01A7=VS184 E01A8=VS185 E01A9=VS186 E01AA=VS187 E01AB=VS188 E01AC=VS189 E01AD=VS190",
  "E01AE=VS191 E01AF=VS192 E01B0=VS193 E01B1=VS194 E01B2=VS195 E01B3=VS196 E01B4=VS197",
  "E01B5=VS198 E01B6=VS199 E01B7=VS200 E01B8=VS201 E01B9=VS202 E01BA=VS203 E01BB=VS204",
  "E01BC=VS205 E01BD=VS206 E01BE=VS207 E01BF=VS208 E01C0=VS209 E01C1=VS210 E01C2=VS211",
  "E01C3=VS212 E01C4=VS213 E01C5=VS214 E01C6=VS215 E01C7=VS216 E01C8=VS217 E01C9=VS218",
  "E01CA=VS219 E01CB=VS220 E01CC=VS221 E01CD=VS222 E01CE=VS223 E01CF=VS224 E01D0=VS225",
  "E01D1=VS226 E01D2=VS227 E01D3=VS228 E01D4=VS229 E01D5=VS230 E01D6=VS231 E01D7=VS232",
  "E01D8=VS233 E01D9=VS234 E01DA=VS235 E01DB=VS236 E01DC=VS237 E01DD=VS238 E01DE=VS239",
  "E01DF=VS240 E01E0=VS241 E01E1=VS242 E01E2=VS243 E01E3=VS244 E01E4=VS245 E01E5=VS246",
  "E01E6=VS247 E01E7=VS248 E01E8=VS249 E01E9=VS250 E01EA=VS251 E01EB=VS252 E01EC=VS253",
  "E01ED=VS254 E01EE=VS255 E01EF=VS256"]

end Unicode
end Wordbook
